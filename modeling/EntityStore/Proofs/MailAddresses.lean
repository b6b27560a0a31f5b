import EntityStore.Proofs.PatternSearch
import EntityStore.Proofs.Ruled

/-! # Mail addresses

The format of mail addresses is a pattern that is tied to the front and to the end. Its runs of
characters may be cut at any point between them, and whatever the cut, what is read is an address: a
text without blanks and with one `@`, with something before that and a point inside of what is behind.
The end of the pattern also holds in front of a line break that ends the text, so an address with a
line break behind it passes too.
-/
namespace EntityStore

/-! ## Addresses -/

/-- A text without blanks and with one `@`; behind the `@` is a point with something on both sides, and
something is in front of it. -/
structure MailAddress (s : String) : Prop where
  noBlank : ∀ c ∈ s.toList, isBlank c = false
  oneAt : s.toList.count '@' = 1
  pointed : ∃ user domain, s.toList = user ++ '@' :: domain ∧ user ≠ [] ∧
    ∃ host ending, domain = host ++ '.' :: ending ∧ host ≠ [] ∧ ending ≠ []

/-- What passes for an address: an address, or an address and a line break. -/
def PassesForAddress (s : String) : Prop := ∃ t, MailAddress t ∧ (s = t ∨ s = t ++ "\n")

/-- A part of an address. -/
structure MailWord (cs : List Char) : Prop where
  nonempty : cs ≠ []
  letters : ∀ c ∈ cs, Rule.isMailChar c = true

/-- The three parts of an address, for one of its points. -/
def MailParts (cs : List Char) : Prop :=
  ∃ user host ending, cs = user ++ '@' :: (host ++ '.' :: ending) ∧
    MailWord user ∧ MailWord host ∧ MailWord ending

theorem isMailChar_iff {c : Char} : Rule.isMailChar c = true ↔ c ≠ '@' ∧ isBlank c = false := by
  simp [Rule.isMailChar]

theorem MailWord.at_not_mem {cs : List Char} (h : MailWord cs) : '@' ∉ cs :=
  fun hm => (isMailChar_iff.mp (h.letters _ hm)).1 rfl

theorem MailParts.noBlank {cs : List Char} (h : MailParts cs) : ∀ c ∈ cs, isBlank c = false := by
  obtain ⟨user, host, ending, rfl, huser, hhost, hending⟩ := h
  have hword : ∀ {word}, MailWord word → ∀ c ∈ word, isBlank c = false :=
    fun hword c hc => (isMailChar_iff.mp (hword.letters c hc)).2
  intro c hc
  simp only [List.mem_append, List.mem_cons] at hc
  rcases hc with hc | rfl | hc | rfl | hc
  · exact hword huser c hc
  · decide
  · exact hword hhost c hc
  · decide
  · exact hword hending c hc

theorem MailParts.getLast?_ne {cs : List Char} (h : MailParts cs) : cs.getLast? ≠ some '\n' := by
  intro hlast
  exact absurd (h.noBlank _ (List.mem_of_getLast? hlast)) (by decide)

theorem mailAddress_iff_parts {s : String} : MailAddress s ↔ MailParts s.toList := by
  constructor
  · rintro ⟨hblank, hat, user, _, hs, huser, host, ending, rfl, hhost, hending⟩
    rw [hs] at hblank hat
    simp only [List.count_append, List.count_cons, beq_self_eq_true, if_true,
      show ('.' == '@') = false from rfl, Bool.false_eq_true, if_false] at hat
    have hword : ∀ cs, cs ≠ [] → cs.count '@' = 0 →
        (∀ c ∈ cs, c ∈ user ++ '@' :: (host ++ '.' :: ending)) → MailWord cs := by
      intro cs hcs hzero hsub
      refine ⟨hcs, fun c hc => isMailChar_iff.mpr ⟨?_, hblank c (hsub c hc)⟩⟩
      rintro rfl
      exact List.count_eq_zero.mp hzero hc
    refine ⟨user, host, ending, hs, hword user huser (by omega) ?_, hword host hhost (by omega) ?_,
      hword ending hending (by omega) ?_⟩
    · exact fun c hc => by simp [hc]
    · exact fun c hc => by simp [hc]
    · exact fun c hc => by simp [hc]
  · intro h
    obtain ⟨user, host, ending, hs, huser, hhost, hending⟩ := id h
    refine ⟨h.noBlank, ?_, user, _, hs, huser.nonempty, host, ending, rfl, hhost.nonempty,
      hending.nonempty⟩
    simp [hs, List.count_eq_zero.mpr huser.at_not_mem, List.count_eq_zero.mpr hhost.at_not_mem,
      List.count_eq_zero.mpr hending.at_not_mem]

theorem passesForAddress_iff {s : String} : PassesForAddress s ↔
    ∃ line back, s.toList = line ++ back ∧ MailParts line ∧ (back = [] ∨ back = ['\n']) := by
  constructor
  · rintro ⟨t, ht, rfl | rfl⟩
    · exact ⟨s.toList, [], by simp, mailAddress_iff_parts.mp ht, .inl rfl⟩
    · exact ⟨t.toList, ['\n'], by simp, mailAddress_iff_parts.mp ht, .inr rfl⟩
  · rintro ⟨line, back, hs, hline, hback⟩
    refine ⟨String.ofList line, mailAddress_iff_parts.mpr (by simpa using hline), ?_⟩
    rcases hback with rfl | rfl
    · exact .inl (String.toList_injective (by simpa using hs))
    · exact .inr (String.toList_injective (by simpa using hs))

/-! ## The check -/

/-- In front of the first `@` is the one part; the rest has a point that is not at one of its ends. -/
theorem mailParts_iff {cs : List Char} : MailParts cs ↔
    ∃ domain, cs.dropWhile Rule.isMailChar = '@' :: domain ∧ cs.takeWhile Rule.isMailChar ≠ [] ∧
      (∀ c ∈ domain, Rule.isMailChar c = true) ∧ '.' ∈ (domain.drop 1).dropLast := by
  constructor
  · rintro ⟨user, host, ending, rfl, huser, hhost, hending⟩
    have hat : ¬ Rule.isMailChar '@' = true := by decide
    rw [List.takeWhile_append_of_pos huser.letters, List.dropWhile_append_of_pos huser.letters,
      List.takeWhile_cons_of_neg hat, List.dropWhile_cons_of_neg hat, List.append_nil]
    refine ⟨_, rfl, huser.nonempty, ?_, ?_⟩
    · intro c hc
      simp only [List.mem_append, List.mem_cons] at hc
      rcases hc with hc | rfl | hc
      · exact hhost.letters c hc
      · decide
      · exact hending.letters c hc
    · obtain ⟨h, host, rfl⟩ := List.exists_cons_of_ne_nil hhost.nonempty
      rw [List.cons_append, List.drop_one, List.tail_cons,
        List.dropLast_append_of_ne_nil (List.cons_ne_nil _ _),
        List.dropLast_cons_of_ne_nil hending.nonempty]
      simp
  · rintro ⟨domain, hdrop, huser, hall, hpoint⟩
    obtain ⟨host, ending, hinner⟩ := List.append_of_mem hpoint
    cases domain with
    | nil => cases hpoint
    | cons first more =>
      rw [List.drop_one, List.tail_cons] at hpoint hinner
      rcases List.eq_nil_or_concat more with rfl | ⟨inner, last, rfl⟩
      · cases hpoint
      rw [List.concat_eq_append, List.dropLast_concat] at hinner
      subst hinner
      refine ⟨_, first :: host, ending ++ [last], ?_, ⟨huser, ?_⟩, ⟨by simp, ?_⟩, by simp, ?_⟩
      · have hcs := List.takeWhile_append_dropWhile (p := Rule.isMailChar) (l := cs)
        rw [hdrop] at hcs
        simpa using hcs.symm
      · exact fun c hc => List.mem_takeWhile_imp hc
      · exact fun c hc => hall c (by simp at hc ⊢; tauto)
      · exact fun c hc => hall c (by simp at hc ⊢; tauto)

theorem isMailAddress_iff {s : String} : Rule.isMailAddress s = true ↔ PassesForAddress s := by
  rw [passesForAddress_iff, Pattern.exists_line_iff fun line h => h.getLast?_ne, mailParts_iff,
    Rule.isMailAddress]
  generalize (if s.toList.getLast? = some '\n' then s.toList.dropLast else s.toList) = cs
  split
  · rename_i domain hdrop
    simp [hdrop, and_assoc]
  · rename_i hdrop
    simp only [Bool.false_eq_true, false_iff]
    rintro ⟨domain, h, -⟩
    exact hdrop domain h

/-! ## The pattern -/

namespace Pattern

def mailPattern : String := "^[^@\\s]+@[^@\\s]+\\.[^@\\s]+$"

def mailLetter : Expr := .oneOf true [.one '@'.toNat, .ofClass .space false]
def mailLetters : Expr := .repeated 1 none .greedy mailLetter

def mailExpr : Expr :=
  .seq (.anchor .lineStart) (.seq mailLetters (.seq (.one '@'.toNat)
    (.seq mailLetters (.seq (.one '.'.toNat) (.seq mailLetters (.anchor .lineEnd))))))

theorem compile_mailPattern : compile mailPattern = .ok ⟨mailExpr, {}, 0⟩ := by
  decide +kernel

theorem matches_mailLetter (c : Char) : matchesUnit {} c mailLetter = Rule.isMailChar c := by
  have hat : matchesOne {} '@'.toNat c.toNat = decide (c = '@') := matches_char '@' c
  simp [mailLetter, matchesUnit, matchesSet, SetItem.holds, CharClass.holds, Rule.isMailChar, ← hat,
    matchesOne]

theorem reads_mailLetters {front piece back : List Char} :
    mailLetters.Reads {} front piece back ↔ MailWord piece := by
  simp only [mailLetters, Expr.Reads, matches_mailLetter, List.length_pos_iff, Nat.succ_le_iff]
  constructor
  · rintro ⟨hne, hall⟩
    exact ⟨hne, hall⟩
  · rintro ⟨hne, hall⟩
    exact ⟨hne, hall⟩

theorem reads_mailExpr {front piece back : List Char} : mailExpr.Reads {} front piece back ↔
    front = [] ∧ MailParts piece ∧ (back = [] ∨ back = ['\n']) := by
  simp only [mailExpr, Expr.Reads, reads_mailLetters, matches_char, decide_eq_true_eq,
    exists_eq_right, lineStart_holds_iff, lineEnd_holds_iff]
  constructor
  · rintro ⟨_, _, rfl, ⟨rfl, rfl⟩, user, _, rfl, huser, _, _, rfl, rfl, host, _, rfl, hhost,
      _, _, rfl, rfl, ending, _, rfl, hending, rfl, hback⟩
    exact ⟨rfl, ⟨user, host, ending, by simp, huser, hhost, hending⟩, hback⟩
  · rintro ⟨rfl, ⟨user, host, ending, rfl, huser, hhost, hending⟩, hback⟩
    exact ⟨[], _, rfl, ⟨rfl, rfl⟩, user, _, rfl, huser, _, _, rfl, rfl, host, _, rfl, hhost,
      _, _, rfl, rfl, ending, [], by simp, hending, rfl, hback⟩

theorem search_mailExpr (s : String) :
    Compiled.search ⟨mailExpr, {}, 0⟩ s = true ↔ PassesForAddress s := by
  rw [search_iff_reads rfl, passesForAddress_iff]
  simp only [reads_mailExpr]
  constructor
  · rintro ⟨_, line, back, ht, rfl, hline, hback⟩
    exact ⟨line, back, ht, hline, hback⟩
  · rintro ⟨line, back, ht, hline, hback⟩
    exact ⟨[], line, back, ht, rfl, hline, hback⟩

end Pattern

/-! ## Fields of addresses -/

/-- A field with all of its rules but the format. -/
def Field.unformatted (f : Field) : Field := { f with rules := { f.rules with format := none } }

namespace Rule

variable {f : Field} {s : String}

/-- The format of a text is looked at when its length and its pattern are right. -/
theorem text_unformatted (f : Field) (s : String) : text f (.text s) = (do
    let x ← text f.unformatted (.text s)
    checkFormat f.rules.format s
    return x) := by
  have hlength : checkLength f.unformatted.rules.minLength (mostCharacters f.unformatted) s =
      checkLength f.rules.minLength (mostCharacters f) s := rfl
  have hpattern : f.unformatted.rules.pattern = f.rules.pattern := rfl
  have hformat : checkFormat f.unformatted.rules.format s = .ok () := rfl
  simp only [text, readText, ok_bind, hlength, hpattern, hformat]
  cases checkLength f.rules.minLength (mostCharacters f) s with
  | error stop => rfl
  | ok =>
    cases f.rules.pattern with
    | none => rfl
    | some p =>
      simp only [ok_bind]
      cases Ruled.require (hasPattern p s) (.patternMismatch p) <;> rfl

theorem value_text (hkind : f.kind = .shortText ∨ f.kind = .longText) :
    value f (.text s) = (do
      let x ← text f (.text s)
      f.rules.refine.forM (refine x)
      return x) := by
  rcases hkind with hkind | hkind <;> simp only [value, present, builtIn, hkind]

variable (hkind : f.kind = .shortText ∨ f.kind = .longText) (hformat : f.rules.format = some .email)

include hkind hformat

/-- An address is held against the other rules only. -/
theorem value_address (hs : isMailAddress s = true) :
    value f (.text s) = value f.unformatted (.text s) := by
  have hcheck : checkFormat f.rules.format s = .ok () := by
    rw [hformat]
    exact Ruled.require_ok.mpr hs
  have hkind' : f.unformatted.kind = .shortText ∨ f.unformatted.kind = .longText := hkind
  rw [value_text hkind, value_text hkind', text_unformatted, hcheck]
  cases text f.unformatted (.text s) <;> rfl

/-- A text that is no address is refused, for that if nothing else is wrong with its length and
pattern. -/
theorem value_noAddress (hs : isMailAddress s = false) : value f (.text s) = (do
    let _ ← text f.unformatted (.text s)
    Ruled.refuse .notEmail) := by
  have hcheck : checkFormat f.rules.format s = Ruled.refuse .notEmail := by
    rw [hformat, checkFormat, hs]
    rfl
  rw [value_text hkind, text_unformatted, hcheck]
  cases text f.unformatted (.text s) <;> rfl

end Rule

/-- A field of addresses takes the texts that its other rules take and that the pattern is found in:
the addresses, and the addresses with a line break behind them. Of the texts that its other rules take
it refuses the rest as no address. -/
theorem address_passes_iff {f : Field} (hkind : f.kind = .shortText ∨ f.kind = .longText)
    (hformat : f.rules.format = some .email) (s : String) :
    (∃ p, Pattern.compile Pattern.mailPattern = .ok p ∧
      (p.search s = true ↔ PassesForAddress s)) ∧
    (∀ x, Rule.value f (.text s) = .ok x ↔
      Rule.value f.unformatted (.text s) = .ok x ∧ PassesForAddress s) ∧
    ∀ x, Rule.value f.unformatted (.text s) = .ok x → ¬ PassesForAddress s →
      Rule.value f (.text s) = Ruled.refuse .notEmail := by
  have hrefused : ¬ PassesForAddress s → Rule.isMailAddress s = false := fun h =>
    Bool.eq_false_iff.mpr fun hs => h (isMailAddress_iff.mp hs)
  refine ⟨⟨_, Pattern.compile_mailPattern, Pattern.search_mailExpr s⟩, fun x => ?_, fun x hx hs => ?_⟩
  · by_cases hs : PassesForAddress s
    · rw [Rule.value_address hkind hformat (isMailAddress_iff.mpr hs)]
      exact (and_iff_left hs).symm
    · rw [Rule.value_noAddress hkind hformat (hrefused hs)]
      simp only [hs, and_false, iff_false, bind_ok]
      rintro ⟨_, -, h⟩
      cases h
  · have hkind' : f.unformatted.kind = .shortText ∨ f.unformatted.kind = .longText := hkind
    rw [Rule.value_noAddress hkind hformat (hrefused hs)]
    rw [Rule.value_text hkind'] at hx
    obtain ⟨y, hy, -⟩ := bind_ok.mp hx
    rw [hy]
    rfl

/-- A field with no rule but its format. -/
def contact : Field := { name := "contact", kind := .longText, rules := { format := some .email } }

theorem contact_unformatted (s : String) :
    Rule.value contact.unformatted (.text s) = .ok (.text s) := rfl

theorem reader_passes :
    ((contact.kind = .shortText ∨ contact.kind = .longText) ∧ contact.rules.format = some .email) ∧
    Rule.value contact (.text "first.reader@mail.example.com") =
      .ok (.text "first.reader@mail.example.com") := by
  have h := (address_passes_iff (f := contact) (.inr rfl) rfl "first.reader@mail.example.com").2.1
    (.text "first.reader@mail.example.com")
  exact ⟨⟨.inr rfl, rfl⟩, h.mpr ⟨contact_unformatted _, isMailAddress_iff.mp (by decide)⟩⟩

/-- A line break behind an address passes, and is a blank. -/
theorem broken_address_passes : Rule.value contact (.text "a@b.c\n") = .ok (.text "a@b.c\n") ∧
    ¬ ∀ s, Rule.value contact (.text s) = .ok (.text s) ↔ MailAddress s := by
  have hpasses : Rule.value contact (.text "a@b.c\n") = .ok (.text "a@b.c\n") := rfl
  refine ⟨hpasses, fun h => ?_⟩
  exact absurd (((h _).mp hpasses).noBlank '\n' (by decide)) (by decide)

end EntityStore
