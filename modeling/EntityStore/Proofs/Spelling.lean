import EntityStore.Proofs.Lexemes
import EntityStore.Schema.Statement

/-! # Reading what is printed

Names, numbers, types and defaults are read back from the text in which a statement writes them. A
text comes back as one literal in single quotes, and as itself unless a character of it is written in
a way that the dialect does not undo.
-/
namespace EntityStore

open Sql

/-! ## Names -/

def isNameChar (c : Char) : Bool := isIdentifierChar c || c = '\n'

/-- The name that a lexeme stands for. -/
def Sql.Lexeme.named? : Lexeme → Option (List Char)
  | .word w => some w
  | .name n => some n
  | .text _ | .mark _ => none

theorem isInner_of_named {l : Lexeme} {n : List Char} (h : l.named? = some n) : l.isInner = true := by
  cases l <;> first | rfl | cases h

theorem toList_nameText (dialect : Dialect) (name : String) : (dialect.nameText name).toList =
    if dialect.needsQuotes name then '"' :: (name.toList.flatMap (doubled '"') ++ ['"'])
    else name.toList := by
  rw [Dialect.nameText]
  split
  · simp only [String.toList_append, String.toList_ofList]
    rfl
  · rfl

/-- A line break may end a name; the rest of it is one word. -/
theorem isNameChar_of_identifier {name : String} (h : isIdentifier name = true) :
    ∀ c ∈ name.toList, isNameChar c = true := by
  unfold isIdentifier at h
  cases hn : name.toList with
  | nil => simp
  | cons c rest =>
    simp only [hn, isIdentifierStart, Bool.and_eq_true, List.all_eq_true] at h
    obtain ⟨hc, hrest⟩ := h
    have hfirst : isNameChar c = true := by
      simp only [isNameChar, isIdentifierChar, Char.isAlphanum, Bool.or_eq_true] at hc ⊢
      tauto
    intro x hx
    rcases List.mem_cons.mp hx with rfl | hx
    · exact hfirst
    by_cases hlast : rest.getLast? = some '\n'
    · rw [if_pos hlast] at hrest
      rw [List.getLast?_eq_some_iff] at hlast
      obtain ⟨init, rfl⟩ := hlast
      rw [List.dropLast_concat] at hrest
      rcases List.mem_append.mp hx with hx | hx
      · simp [isNameChar, hrest x hx]
      · simp [isNameChar, List.mem_singleton.mp hx]
    · rw [if_neg hlast] at hrest
      simp [isNameChar, hrest x hx]

theorem isIdentifierChar_of_plain {c : Char} (hn : isNameChar c = true)
    (hp : Dialect.isPlainNameChar c = true) : isIdentifierChar c = true := by
  simp only [isNameChar, Bool.or_eq_true, decide_eq_true_eq] at hn
  rcases hn with hn | rfl
  · exact hn
  · cases hp

/-- A name that needs no quotes is one word, and at most a line break behind it. -/
theorem word_of_plain {letters : List Char} (h : ∀ c ∈ letters, isNameChar c = true)
    (hp : Dialect.isPlainName (String.ofList letters) = true) :
    ∃ word, word ≠ [] ∧ (∀ c ∈ word, isIdentifierChar c = true) ∧
      (letters = word ∨ letters = word ++ ['\n']) := by
  rw [Dialect.isPlainName, String.toList_ofList] at hp
  cases letters with
  | nil => simp at hp
  | cons c rest =>
    simp only [Bool.and_eq_true, List.all_eq_true] at hp
    obtain ⟨hc, hrest⟩ := hp
    have hfirst : isIdentifierChar c = true := by
      refine isIdentifierChar_of_plain (h c (by simp)) ?_
      simp only [Dialect.isPlainNameChar, Char.isAlphanum, Bool.or_eq_true] at hc ⊢
      tauto
    have hword : ∀ body ⊆ rest, (∀ d ∈ body, Dialect.isPlainNameChar d = true) →
        ∀ d ∈ c :: body, isIdentifierChar d = true := by
      intro body hsub hbody d hd
      rcases List.mem_cons.mp hd with rfl | hd
      · exact hfirst
      · exact isIdentifierChar_of_plain (h d (List.mem_cons_of_mem _ (hsub hd))) (hbody d hd)
    by_cases hlast : rest.getLast? = some '\n'
    · rw [if_pos hlast] at hrest
      obtain ⟨init, rfl⟩ := List.getLast?_eq_some_iff.mp hlast
      rw [List.dropLast_concat] at hrest
      exact ⟨c :: init, by simp, hword init (List.subset_append_left _ _) hrest, .inr rfl⟩
    · rw [if_neg hlast] at hrest
      exact ⟨c :: rest, by simp, hword rest (List.Subset.refl _) hrest, .inl rfl⟩

/-- A name is read as what a statement keeps of it. -/
theorem spelled_nameText (dialect : Dialect) {name : String}
    (h : ∀ c ∈ name.toList, isNameChar c = true) :
    ∃ l, spelled (dialect.nameText name).toList = some [l] ∧
      l.named? = some (dialect.denoted name).toList := by
  rw [toList_nameText, Dialect.denoted]
  split
  · refine ⟨.name name.toList, spelled_name ?_, rfl⟩
    intro hnull
    exact absurd (h _ hnull) (by decide)
  rename_i hquotes
  have hplain : Dialect.isPlainName (String.ofList name.toList) = true := by
    rw [String.ofList_toList]
    by_contra hn
    exact hquotes (by simp [Dialect.needsQuotes, hn])
  obtain ⟨word, hne, hword, hletters⟩ := word_of_plain h hplain
  have hkept : word.filter (· ≠ '\n') = word := by
    refine List.filter_eq_self.mpr fun c hc => decide_eq_true ?_
    rintro rfl
    exact absurd (hword _ hc) (by decide)
  rw [String.toList_ofList]
  rcases hletters with hl | hl <;> rw [hl]
  · exact ⟨.word word, spelled_word hword hne, by rw [hkept]; rfl⟩
  · refine ⟨.word word, ?_, by rw [List.filter_append, hkept]; simp [Lexeme.named?]⟩
    simpa using spelled_join (spelled_word hword hne) (by decide)
      (by decide : fresh '\n' = some ([], .between)) spelled_nil

theorem isIdentifierChar_hex {width n : ℕ} :
    ∀ c ∈ (Quoted.hex width n).toList, isIdentifierChar c = true := by
  have hdigit : ∀ d < 16, isIdentifierChar (Nat.digitChar d) = true := by decide
  have hdigits : ∀ c ∈ Nat.toDigits 16 n, isIdentifierChar c = true := by
    induction n using Nat.strongRecOn with
    | ind n ih =>
      rw [Nat.toDigits_eq_if (by decide)]
      split
      · rename_i hn
        simpa using hdigit n hn
      · rename_i hn
        intro c hc
        rcases List.mem_append.mp hc with hc | hc
        · exact ih (n / 16) (by omega) c hc
        · rw [List.mem_singleton.mp hc]
          exact hdigit _ (Nat.mod_lt _ (by decide))
  intro c hc
  rw [Quoted.hex, String.toList_ofList] at hc
  rcases List.mem_append.mp hc with hc | hc
  · rw [List.eq_of_mem_replicate hc]
    decide
  · exact hdigits c hc

theorem isNameChar_bounded {name : String} (h : ∀ c ∈ name.toList, isNameChar c = true) :
    ∀ c ∈ (boundedIdentifier name).toList, isNameChar c = true := by
  intro c hc
  unfold boundedIdentifier at hc
  split at hc
  · exact h c hc
  · simp only [String.toList_append, String.toList_ofList, List.mem_append] at hc
    rcases hc with (hc | hc) | hc
    · exact h c (List.mem_of_mem_take hc)
    · rw [List.mem_singleton.mp hc]
      decide
    · rw [isNameChar, isIdentifierChar_hex c hc, Bool.true_or]

theorem isNameChar_constraintName {entity field : String}
    (he : ∀ c ∈ entity.toList, isNameChar c = true) (hf : ∀ c ∈ field.toList, isNameChar c = true) :
    ∀ c ∈ (constraintName entity field).toList, isNameChar c = true := by
  refine isNameChar_bounded ?_
  have hfixed : "uq_".toList.all isNameChar = true ∧ "_".toList.all isNameChar = true := by decide
  intro c hc
  simp only [String.toList_append, List.mem_append] at hc
  rcases hc with ((hc | hc) | hc) | hc
  · exact List.all_eq_true.mp hfixed.1 c hc
  · exact he c hc
  · exact List.all_eq_true.mp hfixed.2 c hc
  · exact hf c hc

/-! ## Numbers -/

theorem isNumeralChar_digit {c : Char} (h : c.isDigit = true) : isNumeralChar c = true := by
  simp [isNumeralChar, isIdentifierChar, Char.isAlphanum, h]

theorem isNumeralChar_digits {n : ℕ} : ∀ c ∈ Nat.toDigits 10 n, isNumeralChar c = true :=
  fun _ hc => isNumeralChar_digit (Nat.isDigit_of_mem_toDigits (by decide) (by decide) hc)

theorem spelled_digits (n : ℕ) :
    spelled (toString n).toList = some [.word (Nat.toDigits 10 n)] := by
  rw [Nat.toString_eq_repr, Nat.toList_repr]
  refine spelled_word ?_ Nat.toDigits_ne_nil
  intro c hc
  simp [isIdentifierChar, Char.isAlphanum,
    Nat.isDigit_of_mem_toDigits (by decide) (by decide) hc]

/-- A sign in front of the digits of a number. -/
theorem passes_signed (s : Bool) {cs : List Char} (hne : cs ≠ [])
    (h : ∀ c ∈ cs, isNumeralChar c = true) : Passes ((if s then "-" else "").toList ++ cs) := by
  cases s with
  | false => exact passes_numeral h
  | true =>
    cases cs with
    | nil => exact absurd rfl hne
    | cons c cs =>
      exact passes_dash (h c (by simp)) (passes_numeral fun d hd => h d (List.mem_cons_of_mem _ hd))

theorem passes_int (n : Int) : Passes (toString n).toList := by
  cases n with
  | ofNat m =>
    have hm : (toString (Int.ofNat m)).toList = Nat.toDigits 10 m := Nat.toList_repr
    rw [hm]
    exact passes_numeral isNumeralChar_digits
  | negSucc m =>
    have hm : (toString (Int.negSucc m)).toList = "-".toList ++ Nat.toDigits 10 m.succ := by
      rw [← Nat.toList_repr, ← String.toList_append]
      rfl
    rw [hm]
    exact passes_signed true Nat.toDigits_ne_nil isNumeralChar_digits

theorem isNumeralChar_zeros {n : ℕ} : ∀ c ∈ (zeros n).toList, isNumeralChar c = true := by
  intro c hc
  rw [zeros, String.toList_ofList] at hc
  rw [List.eq_of_mem_replicate hc]
  decide

theorem isNumeralChar_decimalDigits {n : ℕ} :
    ∀ c ∈ (decimalDigits n).toList, isNumeralChar c = true := by
  rw [decimalDigits, String.toList_ofList]
  exact isNumeralChar_digits

theorem passes_exponentText (e : Int) : Passes (exponentText e).toList := by
  have hdigits : ∀ c ∈ (if (decimalDigits e.natAbs).length < 2 then "0" ++ decimalDigits e.natAbs
      else decimalDigits e.natAbs).toList, isNumeralChar c = true := by
    intro c hc
    split at hc
    · rcases List.mem_append.mp (String.toList_append ▸ hc) with hc | hc
      · rw [List.mem_singleton.mp hc]
        decide
      · exact isNumeralChar_decimalDigits c hc
    · exact isNumeralChar_decimalDigits c hc
  have hne : (if (decimalDigits e.natAbs).length < 2 then "0" ++ decimalDigits e.natAbs
      else decimalDigits e.natAbs).toList ≠ [] := by
    split
    · simp
    · simp [decimalDigits, Nat.toDigits_ne_nil]
  rw [exponentText, String.toList_append]
  split
  · exact passes_signed true hne hdigits
  · exact (passes_numeral (List.all_eq_true.mp (by decide))).append (passes_numeral hdigits)

theorem numeral_append {a b : String} (ha : ∀ c ∈ a.toList, isNumeralChar c = true)
    (hb : ∀ c ∈ b.toList, isNumeralChar c = true) : ∀ c ∈ (a ++ b).toList, isNumeralChar c = true := by
  rw [String.toList_append]
  exact List.forall_mem_append.mpr ⟨ha, hb⟩

theorem numeral_sublist {a : String} {cs : List Char} (h : cs.Sublist a.toList)
    (ha : ∀ c ∈ a.toList, isNumeralChar c = true) :
    ∀ c ∈ (String.ofList cs).toList, isNumeralChar c = true := by
  rw [String.toList_ofList]
  exact fun c hc => ha c (h.subset hc)

theorem passes_toText (x : Binary64) : Passes x.toText.toList := by
  cases x with
  | nan => exact passes_numeral (List.all_eq_true.mp (by decide))
  | infinity s =>
    cases s with
    | false => exact passes_numeral (List.all_eq_true.mp (by decide))
    | true =>
      have hne : "inf".toList ≠ [] := by decide
      exact passes_signed true hne (List.all_eq_true.mp (by decide))
  | finite s m e h =>
    have hdigits := isNumeralChar_decimalDigits (n := (Binary64.shortest m e).1)
    have hall : ∀ t ∈ ["0.", ".0", ".", "e"], t.toList.all isNumeralChar = true := by decide
    have hfixed : ∀ t ∈ ["0.", ".0", ".", "e"], ∀ c ∈ t.toList, isNumeralChar c = true :=
      fun t ht => List.all_eq_true.mp (hall t ht)
    simp only [Binary64.toText]
    generalize decimalDigits (Binary64.shortest m e).1 = digits at hdigits ⊢
    have hsigned := @passes_signed s
    generalize (if s = true then "-" else "") = sign at hsigned ⊢
    split
    · -- the digits, with a point among them or zeros before or behind them
      rw [String.toList_append]
      split
      · exact hsigned (by simp)
          (numeral_append (numeral_append (hfixed _ (by simp)) isNumeralChar_zeros) hdigits)
      split
      · exact hsigned (by simp)
          (numeral_append (numeral_append hdigits isNumeralChar_zeros) (hfixed _ (by simp)))
      · exact hsigned (by simp) (numeral_append (numeral_append
          (numeral_sublist (List.take_sublist _ _) hdigits) (hfixed _ (by simp)))
          (numeral_sublist (List.drop_sublist _ _) hdigits))
    · -- the exponent may bring a second sign, which a letter keeps apart from the first
      rw [String.toList_append, String.toList_append, ← List.append_assoc]
      refine Passes.append ?_ (passes_exponentText _)
      refine hsigned (by simp) (numeral_append ?_ (hfixed _ (by simp)))
      split
      · rename_i c hl
        exact numeral_sublist (hl ▸ List.Sublist.refl _) hdigits
      · rename_i hl
        rw [hl, List.forall_mem_cons] at hdigits
        rw [String.toList_ofList, List.forall_mem_cons, List.forall_mem_cons]
        exact ⟨hdigits.1, by decide, hdigits.2⟩
      · simp

/-! ## Types -/

def Sql.keyword (w : String) : Lexeme := .word w.toList

def Sql.number (n : ℕ) : Lexeme := .word (Nat.toDigits 10 n)

def ColumnType.lexemes (dialect : Dialect) : ColumnType → List Lexeme
  | .varchar n => [keyword "VARCHAR", .mark '(', number n, .mark ')']
  | .text => [keyword "TEXT"]
  | .integer => [keyword "INTEGER"]
  | .bigint => [keyword "BIGINT"]
  | .smallint => [keyword "SMALLINT"]
  | .numeric none _ => [keyword "NUMERIC"]
  | .numeric (some p) none => [keyword "NUMERIC", .mark '(', number p, .mark ')']
  | .numeric (some p) (some s) =>
    [keyword "NUMERIC", .mark '(', number p, .mark ',', number s, .mark ')']
  | .real => [keyword "REAL"]
  | .double => match dialect with
    | .postgresql => [keyword "DOUBLE", keyword "PRECISION"]
    | .sqlite => [keyword "DOUBLE"]
  | .date => [keyword "DATE"]
  | .timestamp => match dialect with
    | .postgresql => ["TIMESTAMP", "WITH", "TIME", "ZONE"].map keyword
    | .sqlite => [keyword "DATETIME"]
  | .boolean => [keyword "BOOLEAN"]

section Types

variable {dialect : Dialect}

theorem spelled_type (t : ColumnType) :
    spelled (t.sql dialect).toList = some (t.lexemes dialect) := by
  have hwords : spelled "VARCHAR".toList = some [keyword "VARCHAR"] ∧
      spelled "NUMERIC".toList = some [keyword "NUMERIC"] := by decide
  have hvarchar : ∀ inner, ("VARCHAR(" ++ inner ++ ")").toList =
      "VARCHAR".toList ++ '(' :: (inner.toList ++ [')']) := by simp
  have hnumeric : ∀ inner, ("NUMERIC(" ++ inner ++ ")").toList =
      "NUMERIC".toList ++ '(' :: (inner.toList ++ [')']) := by simp
  unfold ColumnType.sql
  split
  · rw [hvarchar]
    exact spelled_group hwords.1 (spelled_digits _)
  case h_6 => exact hwords.2
  case h_7 =>
    rw [hnumeric]
    exact spelled_group hwords.2 (spelled_digits _)
  case h_8 p s =>
    have hpair : ("NUMERIC(" ++ toString p ++ ", " ++ toString s ++ ")").toList =
        "NUMERIC".toList ++ '(' :: ((toString p).toList ++ ',' :: ' ' :: (toString s).toList ++ [')']) := by
      simp
    rw [hpair]
    exact spelled_group hwords.2 (spelled_join (spelled_digits p) (by decide)
      (by decide : fresh ',' = some ([.mark ','], .between))
      ((spelled_after_blank (.inl rfl)).trans (spelled_digits s)))
  all_goals cases dialect <;> decide

theorem whole_type (t : ColumnType) : Whole (t.lexemes dialect) := by
  have hgroup : ∀ (w : String) (inner : List Lexeme),
      (∀ l ∈ inner, l ≠ .mark '(' ∧ l ≠ .mark ')') →
      Whole (keyword w :: .mark '(' :: (inner ++ [.mark ')'])) := by
    intro w inner h
    exact (whole_inner (w := [keyword w]) rfl).append (whole_group h)
  unfold ColumnType.lexemes
  split
  · exact hgroup "VARCHAR" [number _] (by simp [number])
  case h_7 => exact hgroup "NUMERIC" [number _] (by simp [number])
  case h_8 => exact hgroup "NUMERIC" [number _, .mark ',', number _] (by simp [number])
  all_goals cases dialect <;> exact whole_inner rfl

theorem type_lacks_default (t : ColumnType) : keyword "DEFAULT" ∉ t.lexemes dialect := by
  have hdigits : ∀ n, keyword "DEFAULT" ≠ number n := by
    intro n h
    have hd : 'D' ∈ Nat.toDigits 10 n := by
      rw [← Lexeme.word.inj h]
      decide
    exact absurd (Nat.isDigit_of_mem_toDigits (by decide) (by decide) hd) (by decide)
  have hwords : keyword "DEFAULT" ≠ keyword "VARCHAR" ∧ keyword "DEFAULT" ≠ keyword "NUMERIC" := by
    decide
  unfold ColumnType.lexemes
  split
  · simp only [List.mem_cons, List.not_mem_nil, or_false, not_or]
    exact ⟨hwords.1, nofun, hdigits _, nofun⟩
  case h_7 =>
    simp only [List.mem_cons, List.not_mem_nil, or_false, not_or]
    exact ⟨hwords.2, nofun, hdigits _, nofun⟩
  case h_8 =>
    simp only [List.mem_cons, List.not_mem_nil, or_false, not_or]
    exact ⟨hwords.2, nofun, hdigits _, nofun, hdigits _, nofun⟩
  all_goals cases dialect <;> decide

end Types

/-! ## Literals -/

section Literals

variable {dialect : Dialect} {s v : List Char}

/-- How a character of a text is written between single quotes. -/
def Dialect.escaped (dialect : Dialect) (c : Char) : List Char :=
  if c = '\'' then ['\'', '\'']
  else if c = '%' ∧ dialect = .postgresql then ['%', '%']
  else [c]

/-- The text for which the literal of a text stands: nothing takes back the second of two percent
signs. -/
def Dialect.shown (dialect : Dialect) (s : List Char) : List Char :=
  s.flatMap fun c => if c = '%' ∧ dialect = .postgresql then ['%', '%'] else [c]

theorem toList_textLiteral (t : String) : (dialect.textLiteral t).toList =
    '\'' :: (t.toList.flatMap dialect.escaped ++ ['\'']) := by
  simp only [Dialect.textLiteral, String.toList_append, String.toList_ofList]
  rfl

theorem run_text (hs : '\x00' ∉ s) :
    run (.text v) (s.flatMap dialect.escaped) = some ([], .text (v ++ dialect.shown s)) := by
  induction s generalizing v with
  | nil => simp [run, Dialect.shown]
  | cons c s ih =>
    simp only [List.mem_cons, not_or] at hs
    have hrest := @ih
    rw [List.flatMap_cons, run_append, Dialect.escaped, Dialect.shown, List.flatMap_cons]
    split
    · rename_i hc
      subst hc
      simp [run, step, ih hs.2, Dialect.shown]
    · rename_i hc
      split
      · simp [run, step, ih hs.2, Dialect.shown]
      · simp [run, step, hc, Ne.symm hs.1, ih hs.2, Dialect.shown]

theorem spelled_textLiteral {t : String} (ht : '\x00' ∉ t.toList) :
    spelled (dialect.textLiteral t).toList = some [.text (dialect.shown t.toList)] := by
  have hq : step .between '\'' = some ([], .text []) := by decide
  rw [toList_textLiteral, spelled, run_step hq, run_through (run_text ht)]
  simp [run, step, Mode.pending]

/-- No text with a null character can be read. -/
theorem textLiteral_broken {t : String} (ht : '\x00' ∈ t.toList) :
    run .between (dialect.textLiteral t).toList = none := by
  obtain ⟨init, rest, hsplit, hinit⟩ := List.eq_append_cons_of_mem ht
  have hq : step .between '\'' = some ([], .text []) := by decide
  have hnull : dialect.escaped '\x00' = ['\x00'] := rfl
  have hstop : ∀ v cs, run (.text v) ('\x00' :: cs) = none := by
    intro v cs
    simp [run, step]
  rw [toList_textLiteral, hsplit, List.flatMap_append, List.flatMap_cons, hnull, run_step hq,
    List.append_assoc, run_through (run_text hinit)]
  simp [hstop]

theorem shown_cons {c : Char} : dialect.shown (c :: s) =
    (if c = '%' ∧ dialect = .postgresql then ['%', '%'] else [c]) ++ dialect.shown s :=
  List.flatMap_cons

theorem shown_eq_iff : dialect.shown s = s ↔ (dialect = .postgresql → '%' ∉ s) := by
  constructor
  · rintro h rfl hm
    -- every percent sign makes the text one character longer
    have hlength : ∀ cs : List Char,
        (Dialect.postgresql.shown cs).length = cs.length + cs.count '%' := by
      intro cs
      induction cs with
      | nil => rfl
      | cons c cs ih =>
        rw [shown_cons, List.length_append, List.count_cons, ih]
        by_cases hc : c = '%' <;> simp [hc] <;> omega
    have hcount := hlength s
    rw [h] at hcount
    exact absurd (List.count_pos_iff.mpr hm) (by omega)
  · intro h
    induction s with
    | nil => rfl
    | cons c s ih =>
      have hc : ¬ (c = '%' ∧ dialect = .postgresql) := fun hc => h hc.2 (by simp [hc.1])
      rw [shown_cons, if_neg hc]
      exact congrArg (c :: ·) (ih fun hp hm => h hp (List.mem_cons_of_mem _ hm))

end Literals

/-! ## Defaults -/

section Defaults

variable {dialect : Dialect}

def ColumnDefault.HasNull (d : ColumnDefault) : Prop :=
  ∃ s, d = .literal (.text s) ∧ '\x00' ∈ s.toList

theorem spelled_number {cs : List Char} (h : Passes cs) :
    (∃ ls, spelled cs = some ls ∧ Whole ls) ∧
      ∃ ls, spelled ('(' :: (cs ++ [')'])) = some ls ∧ Whole ls := by
  obtain ⟨ls, hls, hinner⟩ := h.spelled
  refine ⟨⟨ls, hls, whole_inner hinner⟩, .mark '(' :: (ls ++ [.mark ')']), ?_, whole_group ?_⟩
  · exact spelled_group spelled_nil hls
  · intro l hl
    have hl' := List.all_eq_true.mp hinner l hl
    constructor <;> rintro rfl <;> cases hl'

/-- The literal of a text stands without parentheses. -/
theorem sql_text (s : String) :
    (ColumnDefault.literal (.text s)).sql dialect = dialect.textLiteral s := by
  have hbare : needsParentheses (dialect.textLiteral s) = false := by
    rw [needsParentheses, toList_textLiteral]
    rfl
  simp [ColumnDefault.sql, Dialect.defaultLiteral, hbare]

/-- Every default without a null character can be read, and is one part of its column. -/
theorem spelled_default {d : ColumnDefault} (h : ¬ d.HasNull) :
    ∃ ls, spelled (d.sql dialect).toList = some ls ∧ Whole ls ∧
      ∀ s, d = .literal (.text s) → ls = [.text (dialect.shown s.toList)] := by
  have hliteral : ∀ t : String, Passes t.toList → ∃ ls,
      spelled (if dialect = .sqlite ∧ needsParentheses t then "(" ++ t ++ ")" else t).toList = some ls ∧
        Whole ls := by
    intro t ht
    obtain ⟨hbare, hgroup⟩ := spelled_number ht
    split
    · have htext : ("(" ++ t ++ ")").toList = '(' :: (t.toList ++ [')']) := by simp
      rw [htext]
      exact hgroup
    · exact hbare
  cases d with
  | now => exact ⟨[keyword "CURRENT_TIMESTAMP"], by cases dialect <;> decide, whole_inner rfl, nofun⟩
  | literal x =>
    cases x with
    | bool b =>
      obtain ⟨ls, hls, hw⟩ := hliteral (dialect.boolLiteral b)
        (passes_numeral (by cases dialect <;> cases b <;> exact List.all_eq_true.mp (by decide)))
      exact ⟨ls, hls, hw, nofun⟩
    | int n =>
      obtain ⟨ls, hls, hw⟩ := hliteral (toString n) (passes_int n)
      exact ⟨ls, hls, hw, nofun⟩
    | float x =>
      obtain ⟨ls, hls, hw⟩ := hliteral x.toText (passes_toText x)
      exact ⟨ls, hls, hw, nofun⟩
    | text s =>
      have hnull : '\x00' ∉ s.toList := fun hm => h ⟨s, rfl, hm⟩
      refine ⟨[.text (dialect.shown s.toList)], ?_, whole_inner rfl, ?_⟩
      · rw [sql_text]
        exact spelled_textLiteral hnull
      · rintro t ht
        cases ht
        rfl

theorem default_broken {d : ColumnDefault} (h : d.HasNull) :
    run .between (d.sql dialect).toList = none := by
  obtain ⟨s, rfl, hs⟩ := h
  rw [sql_text]
  exact textLiteral_broken hs

end Defaults

end EntityStore
