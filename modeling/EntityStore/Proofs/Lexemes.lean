import EntityStore.Proofs.Accepted

/-! # Reading a statement

The text of a statement is read character by character, as far as both dialects read it alike: words,
names in double quotes, texts in single quotes, and a few other characters. What one of them would
read in a way of its own is not read here: comments, back quotes, brackets, dollar signs, a quote
right behind a word, and the null character, at which a text ends for either database.
-/
namespace EntityStore

namespace Sql

inductive Lexeme where
  | word (w : List Char)
  | name (n : List Char)
  | text (t : List Char)
  | mark (c : Char)
  deriving DecidableEq, Repr

/-- Where the reading stands. A quote inside quotes is written twice, so that only the character
behind a quote tells whether it was the last one. -/
inductive Mode where
  | between
  | dash
  | word (w : List Char)
  | name (n : List Char)
  | nameEnd (n : List Char)
  | text (t : List Char)
  | textEnd (t : List Char)
  | ended
  deriving DecidableEq, Repr

abbrev Reading := Option (List Lexeme × Mode)

/-- A character outside of words and quotes. -/
def fresh (c : Char) : Reading :=
  if c = ' ' ∨ c = '\n' ∨ c = '\t' then some ([], .between)
  else if isIdentifierChar c then some ([], .word [c])
  else if c = '"' then some ([], .name [])
  else if c = '\'' then some ([], .text [])
  else if c = '-' then some ([.mark c], .dash)
  else if c = '(' ∨ c = ')' ∨ c = ',' ∨ c = '.' ∨ c = '+' then some ([.mark c], .between)
  else if c = ';' then some ([], .ended)
  else none

def emit (l : Lexeme) (r : Reading) : Reading := r.map fun (ls, m) => (l :: ls, m)

def step : Mode → Char → Reading
  | .between, c => fresh c
  | .dash, c => if c = '-' then none else fresh c
  | .word w, c =>
    if isIdentifierChar c then some ([], .word (w ++ [c]))
    else if c = '"' ∨ c = '\'' then none
    else emit (.word w) (fresh c)
  | .name n, c =>
    if c = '"' then some ([], .nameEnd n)
    else if c = '\x00' then none
    else some ([], .name (n ++ [c]))
  | .nameEnd n, c => if c = '"' then some ([], .name (n ++ [c])) else emit (.name n) (fresh c)
  | .text t, c =>
    if c = '\'' then some ([], .textEnd t)
    else if c = '\x00' then none
    else some ([], .text (t ++ [c]))
  | .textEnd t, c => if c = '\'' then some ([], .text (t ++ [c])) else emit (.text t) (fresh c)
  | .ended, _ => some ([], .ended)

def run (m : Mode) : List Char → Reading
  | [] => some ([], m)
  | c :: cs => (step m c).bind fun (ls, m') => (run m' cs).map fun (rest, last) =>
    (ls ++ rest, last)

/-- The lexemes of the first statement of a text; a semicolon ends it. -/
def statement? (cs : List Char) : Option (List Lexeme) :=
  match run .between cs with
  | some (ls, .ended) => some ls
  | _ => none

/-- What is read but not told yet; nothing may be left open in quotes. -/
def Mode.pending : Mode → Option (List Lexeme)
  | .between | .dash => some []
  | .word w => some [.word w]
  | .nameEnd n => some [.name n]
  | .textEnd t => some [.text t]
  | .name _ | .text _ | .ended => none

/-- The lexemes of a piece of a statement, where a separator follows it. -/
def spelled (cs : List Char) : Option (List Lexeme) :=
  (run .between cs).bind fun (ls, m) => m.pending.map (ls ++ ·)

theorem spelled_nil : spelled [] = some [] := rfl

def isSeparator (c : Char) : Bool :=
  !isIdentifierChar c && c ≠ '"' && c ≠ '\'' && c ≠ '-'

/-! ## Pieces one after another -/

section Pieces

variable {m m' : Mode} {a b cs : List Char} {la lb ls out : List Lexeme} {x : Char}

theorem run_step (h : step m x = some (ls, m')) : run m (x :: cs) =
    (run m' cs).map fun (rest, last) => (ls ++ rest, last) := by
  rw [run, h, Option.bind_some]

theorem run_append : run m (a ++ b) =
    (run m a).bind fun (ls, m') => (run m' b).map fun (rest, last) => (ls ++ rest, last) := by
  induction a generalizing m with
  | nil => cases h : run m b <;> simp [run, h]
  | cons c a ih =>
    rw [List.cons_append, run, run, Option.bind_assoc]
    cases step m c with
    | none => rfl
    | some r =>
      obtain ⟨ls, m'⟩ := r
      simp only [Option.bind_some, ih, Option.bind_map, Option.map_bind]
      cases run m' a with
      | none => rfl
      | some r => simp [Function.comp_def]

theorem run_through (h : run m a = some (la, m')) : run m (a ++ b) =
    (run m' b).map fun (rest, last) => (la ++ rest, last) := by
  rw [run_append, h, Option.bind_some]

theorem run_broken (h : run m a = none) : run m (a ++ b) = none := by
  rw [run_append, h, Option.bind_none]

theorem spelled_iff : spelled cs = some ls ↔
    ∃ out m tail, run .between cs = some (out, m) ∧ m.pending = some tail ∧ out ++ tail = ls := by
  simp only [spelled, Option.bind_eq_some_iff, Option.map_eq_some_iff, Prod.exists]
  constructor
  · rintro ⟨out, m, hr, tail, hm, hls⟩
    exact ⟨out, m, tail, hr, hm, hls⟩
  · rintro ⟨out, m, tail, hr, hm, hls⟩
    exact ⟨out, m, hr, tail, hm, hls⟩

theorem step_separator {tail : List Lexeme} (hm : m.pending = some tail) (hx : isSeparator x = true) :
    step m x = (fresh x).map fun (out, m') => (tail ++ out, m') := by
  simp only [isSeparator, Bool.and_eq_true, Bool.not_eq_true', decide_eq_true_eq] at hx
  obtain ⟨⟨⟨hi, hd⟩, hs⟩, hdash⟩ := hx
  cases m <;> simp only [Mode.pending, Option.some.injEq, reduceCtorEq] at hm <;> subst hm <;>
    simp [step, emit, hi, hd, hs, hdash]

/-- A separator behind a piece tells what was pending, and the reading goes on as it would after the
separator alone. -/
theorem run_spelled (ha : spelled a = some la) (hx : isSeparator x = true)
    (hf : fresh x = some (out, m)) : run .between (a ++ x :: b) =
      (run m b).map fun (rest, last) => (la ++ out ++ rest, last) := by
  obtain ⟨told, m₁, tail, hr, hm, rfl⟩ := spelled_iff.mp ha
  have hstep : step m₁ x = some (tail ++ out, m) := by rw [step_separator hm hx, hf, Option.map_some]
  rw [run_through hr, run_step hstep]
  simp [Option.map_map, Function.comp_def]

theorem spelled_join (ha : spelled a = some la) (hx : isSeparator x = true)
    (hf : fresh x = some (out, .between)) (hb : spelled b = some lb) :
    spelled (a ++ x :: b) = some (la ++ out ++ lb) := by
  obtain ⟨told, m, tail, hr, hm, rfl⟩ := spelled_iff.mp hb
  rw [spelled, run_spelled ha hx hf, hr]
  simp [hm]

theorem spelled_blank (ha : spelled a = some la) (hb : spelled b = some lb) :
    spelled (a ++ ' ' :: b) = some (la ++ lb) := by
  simpa using spelled_join ha (by decide) (by decide : fresh ' ' = some ([], .between)) hb

theorem spelled_open (ha : spelled a = some la) (hb : spelled b = some lb) :
    spelled (a ++ '(' :: b) = some (la ++ .mark '(' :: lb) := by
  simpa using spelled_join ha (by decide) (by decide : fresh '(' = some ([.mark '('], .between)) hb

theorem spelled_close (ha : spelled a = some la) :
    spelled (a ++ [')']) = some (la ++ [.mark ')']) := by
  simpa using spelled_join ha (by decide)
    (by decide : fresh ')' = some ([.mark ')'], .between)) spelled_nil

theorem spelled_group (ha : spelled a = some la) (hb : spelled b = some lb) :
    spelled (a ++ '(' :: (b ++ [')'])) = some (la ++ .mark '(' :: (lb ++ [.mark ')'])) :=
  spelled_open ha (spelled_close hb)

theorem statement?_spelled (ha : spelled a = some la) : statement? (a ++ ';' :: b) = some la := by
  have hended : ∀ cs, run .ended cs = some ([], .ended) := by
    intro cs
    induction cs with
    | nil => rfl
    | cons c cs ih => simp [run, step, ih]
  rw [statement?, run_spelled ha (by decide) (by decide : fresh ';' = some ([], .ended)), hended]
  simp

theorem statement?_broken (h : run .between a = none) : statement? (a ++ b) = none := by
  rw [statement?, run_broken h]

end Pieces

/-! ## Words and quotes -/

section Quotes

variable {v w : List Char}

theorem run_word (hw : ∀ c ∈ w, isIdentifierChar c = true) :
    run (.word v) w = some ([], .word (v ++ w)) := by
  induction w generalizing v with
  | nil => simp [run]
  | cons c w ih =>
    have hc : step (.word v) c = some ([], .word (v ++ [c])) := if_pos (hw c (by simp))
    rw [run_step hc, ih fun d hd => hw d (List.mem_cons_of_mem _ hd)]
    simp

/-- An identifier character begins a word, whatever precedes it. -/
theorem fresh_identifierChar {c : Char} (h : isIdentifierChar c = true) :
    fresh c = some ([], .word [c]) := by
  have hne : ∀ d, isIdentifierChar d = false → c ≠ d := by
    rintro d hd rfl
    rw [h] at hd
    cases hd
  rw [fresh, if_neg, if_pos h]
  simp only [not_or]
  exact ⟨hne _ (by decide), hne _ (by decide), hne _ (by decide)⟩

theorem spelled_word (hw : ∀ c ∈ w, isIdentifierChar c = true) (hne : w ≠ []) :
    spelled w = some [.word w] := by
  cases w with
  | nil => exact absurd rfl hne
  | cons c w =>
    have hc : step .between c = some ([], .word [c]) := fresh_identifierChar (hw c (by simp))
    rw [spelled, run_step hc, run_word fun d hd => hw d (List.mem_cons_of_mem _ hd)]
    simp [Mode.pending]

/-- A quote written twice stands for one. -/
def doubled (quote c : Char) : List Char := if c = quote then [quote, quote] else [c]

theorem run_name (hw : '\x00' ∉ w) :
    run (.name v) (w.flatMap (doubled '"')) = some ([], .name (v ++ w)) := by
  induction w generalizing v with
  | nil => simp [run]
  | cons c w ih =>
    simp only [List.mem_cons, not_or] at hw
    rw [List.flatMap_cons, run_append, doubled]
    split
    · rename_i hc
      subst hc
      simp [run, step, ih hw.2]
    · rename_i hc
      simp [run, step, hc, Ne.symm hw.1, ih hw.2]

theorem spelled_name (hw : '\x00' ∉ w) :
    spelled ('"' :: (w.flatMap (doubled '"') ++ ['"'])) = some [.name w] := by
  have hq : step .between '"' = some ([], .name []) := by decide
  rw [spelled, run_step hq, run_through (run_name hw)]
  simp [run, step, Mode.pending]

end Quotes

/-! ## Blanks -/

section Blanks

variable {cs : List Char} {ls : List Lexeme}

theorem run_blank {x : Char} (hx : x = ' ' ∨ x = '\n' ∨ x = '\t') :
    run .between (x :: cs) = run .between cs := by
  have hs : step .between x = some ([], .between) := if_pos hx
  rw [run_step hs]
  cases run .between cs <;> simp

theorem spelled_after_blank {x : Char} (hx : x = ' ' ∨ x = '\n' ∨ x = '\t') :
    spelled (x :: cs) = spelled cs := by
  rw [spelled, run_blank hx, spelled]

end Blanks

/-! ## Numbers -/

def isNumeralChar (c : Char) : Bool := isIdentifierChar c || c = '.' || c = '+'

/-- Whether a lexeme neither opens, closes nor parts a list. -/
def Lexeme.isInner : Lexeme → Bool
  | .mark c => c ≠ '(' && c ≠ ')' && c ≠ ','
  | _ => true

/-- Where the reading stands inside a number. -/
def Mode.Calm (m : Mode) : Prop := m = .between ∨ ∃ w, m = .word w

/-- Characters that are read as inner lexemes wherever a number stands. -/
def Passes (cs : List Char) : Prop :=
  ∀ m : Mode, m.Calm → ∃ out m', run m cs = some (out, m') ∧ m'.Calm ∧ out.all Lexeme.isInner = true

section Numerals

variable {a b cs : List Char}

theorem fresh_numeral {c : Char} (h : isNumeralChar c = true) :
    ∃ out m', fresh c = some (out, m') ∧ m'.Calm ∧ out.all Lexeme.isInner = true := by
  by_cases hc : isIdentifierChar c = true
  · exact ⟨[], .word [c], fresh_identifierChar hc, .inr ⟨_, rfl⟩, rfl⟩
  · simp only [isNumeralChar, hc, Bool.false_or, Bool.or_eq_true, decide_eq_true_eq] at h
    rcases h with rfl | rfl
    · exact ⟨[.mark '.'], .between, by decide, .inl rfl, rfl⟩
    · exact ⟨[.mark '+'], .between, by decide, .inl rfl, rfl⟩

theorem step_numeral {m : Mode} (hm : m.Calm) {c : Char} (h : isNumeralChar c = true) :
    ∃ out m', step m c = some (out, m') ∧ m'.Calm ∧ out.all Lexeme.isInner = true := by
  obtain ⟨out, m', hf, hm', hout⟩ := fresh_numeral h
  rcases hm with rfl | ⟨w, rfl⟩
  · exact ⟨out, m', hf, hm', hout⟩
  by_cases hc : isIdentifierChar c = true
  · exact ⟨[], .word (w ++ [c]), if_pos hc, .inr ⟨_, rfl⟩, rfl⟩
  · have hquote : ¬ (c = '"' ∨ c = '\'') := by
      rintro (rfl | rfl) <;> cases h
    exact ⟨.word w :: out, m', by simp [step, hc, hquote, hf, emit], hm',
      by simp [Lexeme.isInner, hout]⟩

theorem passes_numeral (h : ∀ c ∈ cs, isNumeralChar c = true) : Passes cs := by
  induction cs with
  | nil => exact fun m hm => ⟨[], m, rfl, hm, rfl⟩
  | cons c cs ih =>
    intro m hm
    obtain ⟨out, m', hs, hm', hout⟩ := step_numeral hm (h c (by simp))
    obtain ⟨rest, last, hr, hlast, hrest⟩ := ih (fun d hd => h d (List.mem_cons_of_mem _ hd)) m' hm'
    exact ⟨out ++ rest, last, by simp [run_step hs, hr], hlast, by simp [hout, hrest]⟩

theorem Passes.append (ha : Passes a) (hb : Passes b) : Passes (a ++ b) := by
  intro m hm
  obtain ⟨out, m', hr, hm', hout⟩ := ha m hm
  obtain ⟨rest, last, hr', hlast, hrest⟩ := hb m' hm'
  exact ⟨out ++ rest, last, by simp [run_through hr, hr'], hlast, by simp [hout, hrest]⟩

/-- One sign may stand before the characters of a number, though not two. -/
theorem passes_dash {c : Char} (hc : isNumeralChar c = true) (hcs : Passes cs) :
    Passes ('-' :: c :: cs) := by
  intro m hm
  obtain ⟨told, hs, htold⟩ : ∃ told, step m '-' = some (told ++ [.mark '-'], .dash) ∧
      told.all Lexeme.isInner = true := by
    rcases hm with rfl | ⟨w, rfl⟩
    · exact ⟨[], by decide, rfl⟩
    · have hi : isIdentifierChar '-' = false := by decide
      have hf : fresh '-' = some ([.mark '-'], .dash) := by decide
      exact ⟨[.word w], by simp [step, hi, hf, emit], rfl⟩
  obtain ⟨out, m', hf, hm', hout⟩ := fresh_numeral hc
  have hd : step .dash c = some (out, m') := by
    have hne : c ≠ '-' := by
      rintro rfl
      cases hc
    rw [step, if_neg hne, hf]
  obtain ⟨rest, last, hr, hlast, hrest⟩ := hcs m' hm'
  exact ⟨told ++ [.mark '-'] ++ (out ++ rest), last, by simp [run_step hs, run_step hd, hr], hlast,
    by simp [htold, hout, hrest, Lexeme.isInner]⟩

theorem Passes.spelled (h : Passes cs) :
    ∃ ls, spelled cs = some ls ∧ ls.all Lexeme.isInner = true := by
  obtain ⟨out, m, hr, hm, hout⟩ := h .between (.inl rfl)
  rcases hm with rfl | ⟨w, rfl⟩
  · exact ⟨out, by simp [Sql.spelled, hr, Mode.pending], hout⟩
  · exact ⟨out ++ [.word w], by simp [Sql.spelled, hr, Mode.pending], by simp [hout, Lexeme.isInner]⟩

end Numerals

/-! ## Lists in parentheses -/

/-- Lexemes put in front of the first item. -/
def glue (w : List Lexeme) : List (List Lexeme) → List (List Lexeme)
  | [] => [w]
  | item :: rest => (w ++ item) :: rest

/-- The items of a list up to the parenthesis that closes it; commas part them, except for those in
parentheses of their own. -/
def items (depth : Nat) : List Lexeme → List (List Lexeme)
  | [] => [[]]
  | .mark '(' :: ls => glue [.mark '('] (items (depth + 1) ls)
  | .mark ')' :: ls =>
    match depth with
    | 0 => [[]]
    | depth + 1 => glue [.mark ')'] (items depth ls)
  | .mark ',' :: ls => if depth = 0 then [] :: items 0 ls else glue [.mark ','] (items depth ls)
  | l :: ls => glue [l] (items depth ls)

/-- Lexemes that belong to one item. -/
def Whole (w : List Lexeme) : Prop := ∀ rest, items 0 (w ++ rest) = glue w (items 0 rest)

section Items

variable {v w : List Lexeme} {depth : ℕ} {rest : List Lexeme}

theorem glue_glue (l : List (List Lexeme)) : glue v (glue w l) = glue (v ++ w) l := by
  cases l <;> simp [glue]

theorem items_ne_nil (ls : List Lexeme) : items depth ls ≠ [] := by
  have hglue : ∀ (w : List Lexeme) (l : List (List Lexeme)), glue w l ≠ [] := by
    intro w l
    cases l <;> simp [glue]
  unfold items
  split
  · simp
  · exact hglue _ _
  · split <;> simp [hglue]
  · split <;> simp [hglue]
  · exact hglue _ _

theorem glue_nil_items (ls : List Lexeme) : glue [] (items depth ls) = items depth ls := by
  cases h : items depth ls with
  | nil => exact absurd h (items_ne_nil ls)
  | cons item rest => simp [glue]

theorem items_inner {l : Lexeme} (h : l.isInner = true) :
    items depth (l :: rest) = glue [l] (items depth rest) := by
  have hne : ∀ c, (Lexeme.mark c).isInner = false → l ≠ .mark c := by
    rintro c hc rfl
    rw [h] at hc
    cases hc
  rw [items]
  · exact hne _ (by decide)
  · exact hne _ (by decide)
  · exact hne _ (by decide)

theorem items_all_inner (h : w.all Lexeme.isInner = true) :
    items depth (w ++ rest) = glue w (items depth rest) := by
  induction w with
  | nil => rw [List.nil_append, glue_nil_items]
  | cons l w ih =>
    simp only [List.all_cons, Bool.and_eq_true] at h
    rw [List.cons_append, items_inner h.1, ih h.2, glue_glue, List.singleton_append]

theorem whole_inner (h : w.all Lexeme.isInner = true) : Whole w := fun _ => items_all_inner h

theorem Whole.append (hv : Whole v) (hw : Whole w) : Whole (v ++ w) := by
  intro rest
  rw [List.append_assoc, hv, hw, glue_glue]

/-- Within parentheses a comma parts nothing. -/
theorem items_within (h : ∀ l ∈ w, l ≠ .mark '(' ∧ l ≠ .mark ')') :
    items 1 (w ++ .mark ')' :: rest) = glue (w ++ [.mark ')']) (items 0 rest) := by
  induction w with
  | nil => simp [items]
  | cons l w ih =>
    have hl : items 1 (l :: (w ++ .mark ')' :: rest)) = glue [l] (items 1 (w ++ .mark ')' :: rest)) := by
      obtain ⟨hopen, hclose⟩ := h l (by simp)
      by_cases hcomma : l = .mark ','
      · rw [hcomma, items, if_neg (by decide)]
      · rw [items] <;> assumption
    rw [List.cons_append, hl, ih fun l hl => h l (List.mem_cons_of_mem _ hl), glue_glue]
    simp

theorem whole_group (h : ∀ l ∈ w, l ≠ .mark '(' ∧ l ≠ .mark ')') :
    Whole (.mark '(' :: (w ++ [.mark ')'])) := by
  intro rest
  have hw : items 1 (w ++ .mark ')' :: rest) = glue (w ++ [.mark ')']) (items 0 rest) :=
    items_within h
  simp only [List.cons_append, List.append_assoc, List.nil_append] at hw ⊢
  rw [items, hw, glue_glue]
  simp

/-- A list in parentheses has the items that were put into it. -/
theorem items_intercalate {ws : List (List Lexeme)} (hne : ws ≠ []) (hws : ∀ w ∈ ws, Whole w) :
    items 0 (List.intercalate [.mark ','] ws ++ [.mark ')']) = ws := by
  induction ws with
  | nil => exact absurd rfl hne
  | cons w ws ih =>
    have hw := hws w (by simp)
    cases ws with
    | nil => simp [List.intercalate, hw [.mark ')'], items, glue]
    | cons w' ws =>
      have htail := ih (by simp) fun v hv => hws v (List.mem_cons_of_mem _ hv)
      rw [List.intercalate_cons_cons, List.append_assoc, List.append_assoc, hw]
      simp [items, glue, htail]

end Items

end Sql

end EntityStore
