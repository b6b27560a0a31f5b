import EntityStore.Pattern.Search
import Mathlib.Data.List.Basic
import Mathlib.Data.List.TakeWhile

/-! # What a search finds

An expression reads a piece of a text that stands between what is before it and what is behind it.
A search tries the choices of an expression in an order, and goes back to the next one where it comes
to nothing. Whether it succeeds does not hang on the order: it does exactly if the expression reads
some piece of the text.
-/
namespace EntityStore

namespace Pattern

/-! ## Runs of one character after another -/

theorem fewerAndFewer_isSome_iff {p : Place} {rest : Rest} {least n : Nat} :
    (fewerAndFewer p rest least n).isSome = true ↔
      ∃ k, least ≤ k ∧ k ≤ n ∧ (rest { p with position := p.position + k }).isSome = true := by
  induction n with
  | zero =>
    rw [fewerAndFewer]
    split
    · rename_i hleast
      refine ⟨fun h => ⟨0, by omega, le_refl 0, h⟩, ?_⟩
      rintro ⟨k, -, hk, h⟩
      obtain rfl : k = 0 := by omega
      exact h
    · refine ⟨fun h => (by cases h), ?_⟩
      rintro ⟨k, hleast, hk, -⟩
      omega
  | succ n ih =>
    rw [fewerAndFewer]
    split
    · refine ⟨fun h => (by cases h), ?_⟩
      rintro ⟨k, hleast, hk, -⟩
      omega
    · split
      · rename_i q hq
        exact ⟨fun _ => ⟨n + 1, by omega, le_refl _, by rw [hq]; rfl⟩, fun _ => rfl⟩
      · rename_i hnone
        rw [ih]
        constructor
        · rintro ⟨k, hleast, hk, h⟩
          exact ⟨k, hleast, by omega, h⟩
        · rintro ⟨k, hleast, hk, h⟩
          refine ⟨k, hleast, ?_, h⟩
          by_contra hn
          obtain rfl : k = n + 1 := by omega
          rw [hnone] at h
          cases h

/-- Where the longest run is the only one that may lead on, it is tried alone. -/
theorem fewerAndFewer_eq_longest {p : Place} {rest : Rest} {least n : Nat}
    (h : rest { p with position := p.position + n } = none →
      ∀ k < n, rest { p with position := p.position + k } = none) :
    fewerAndFewer p rest least n =
      if least ≤ n then rest { p with position := p.position + n } else none := by
  cases n with
  | zero => simp only [fewerAndFewer, Nat.le_zero, Nat.add_zero]
  | succ n =>
    rw [fewerAndFewer]
    by_cases hleast : least ≤ n + 1
    · rw [if_neg (Nat.not_lt.mpr hleast), if_pos hleast]
      cases hlong : rest { p with position := p.position + (n + 1) } with
      | some q => rfl
      | none =>
        rw [← Option.not_isSome_iff_eq_none, fewerAndFewer_isSome_iff]
        rintro ⟨k, -, hk, hsome⟩
        rw [h hlong k (by omega)] at hsome
        cases hsome
    · rw [if_pos (Nat.lt_of_not_le hleast), if_neg hleast]

theorem runLength_toArray (accept : Char → Bool) (text : List Char) (i limit : Nat) :
    runLength accept text.toArray i limit =
      (((text.drop i).take limit).takeWhile accept).length := by
  induction limit generalizing i with
  | zero => rw [List.take_zero]; rfl
  | succ limit ih =>
    rw [runLength, List.getElem?_toArray]
    cases hc : text[i]? with
    | none =>
      rw [List.drop_eq_nil_of_le (List.getElem?_eq_none_iff.mp hc), List.take_nil]
      rfl
    | some c =>
      obtain ⟨hi, rfl⟩ := List.getElem?_eq_some_iff.mp hc
      rw [List.drop_eq_getElem_cons hi, List.take_succ_cons, List.takeWhile_cons]
      simp only
      split
      · rw [ih, List.length_cons]
      · rfl

/-- A run that nothing bounds goes on for as long as the characters are accepted. -/
theorem runLength_all (accept : Char → Bool) (text : List Char) (i : Nat) :
    runLength accept text.toArray i (text.toArray.size - i) =
      ((text.drop i).takeWhile accept).length := by
  rw [runLength_toArray, List.take_of_length_le]
  rw [List.length_drop, List.size_toArray]

theorem le_length_takeWhile_iff {accept : Char → Bool} {cs : List Char} {k : Nat} :
    k ≤ (cs.takeWhile accept).length ↔ k ≤ cs.length ∧ ∀ c ∈ cs.take k, accept c = true := by
  induction cs generalizing k with
  | nil => simp
  | cons c rest ih =>
    cases k with
    | zero => simp
    | succ k =>
      rw [List.takeWhile_cons, List.take_succ_cons, List.forall_mem_cons]
      by_cases hc : accept c = true
      · simp [hc, ih]
      · simp [hc]

/-! ## Single characters -/

theorem matchExpr_unit {e : Expr} (he : e.isUnit = true) (text : List Char) (f : Flags) (p : Place)
    (rest : Rest) : matchExpr text.toArray e f p rest =
      match text[p.position]? with
      | some c => if matchesUnit f c e then rest { p with position := p.position + 1 } else none
      | none => none := by
  rw [← List.getElem?_toArray]
  cases e with
  | one | oneBut | anyChar | oneOf => rfl
  | _ => cases he

theorem matches_char (c d : Char) : matchesUnit {} d (.one c.toNat) = decide (d = c) := by
  rw [Bool.eq_iff_iff]
  simp [matchesUnit, matchesOne, Char.ext_iff, ← UInt32.toNat_inj, eq_comm]

/-! ## Readings -/

namespace Expr

/-- Characters, sets and anchors, in sequences and choices, and runs of one character. -/
def isPlain : Expr → Bool
  | empty | one _ | oneBut _ | anyChar | oneOf .. | anchor _ => true
  | seq a b | either a b => a.isPlain && b.isPlain
  | repeated _ none .greedy body => body.isUnit
  | _ => false

/-- What a plain expression reads between the front and the back of a text. -/
def Reads (f : Flags) : Expr → (front piece back : List Char) → Prop
  | empty, _, piece, _ => piece = []
  | anchor a, front, piece, back =>
    piece = [] ∧ a.holds (front ++ back).toArray f front.length = true
  | seq a b, front, piece, back => ∃ first second, piece = first ++ second ∧
      a.Reads f front first (second ++ back) ∧ b.Reads f (front ++ first) second back
  | either a b, front, piece, back => a.Reads f front piece back ∨ b.Reads f front piece back
  | repeated least _ _ body, _, piece, _ =>
    least ≤ piece.length ∧ ∀ c ∈ piece, matchesUnit f c body = true
  | e, _, piece, _ => ∃ c, piece = [c] ∧ matchesUnit f c e = true

theorem reads_unit {e : Expr} (he : e.isUnit = true) {f : Flags} {front piece back : List Char} :
    e.Reads f front piece back ↔ ∃ c, piece = [c] ∧ matchesUnit f c e = true := by
  cases e with
  | one | oneBut | anyChar | oneOf => simp only [Reads]
  | _ => cases he

end Expr

section Matches

variable {f : Flags} {text front left : List Char} {spans : List (Nat × Nat × Nat)} {rest : Rest}

theorem match_unit_iff_reads {e : Expr} (he : e.isUnit = true) (ht : text = front ++ left) :
    (matchExpr text.toArray e f ⟨front.length, spans⟩ rest).isSome = true ↔
      ∃ piece back, left = piece ++ back ∧ e.Reads f front piece back ∧
        (rest ⟨(front ++ piece).length, spans⟩).isSome = true := by
  have hat : text[front.length]? = left.head? := by
    rw [ht, List.getElem?_append_right (le_refl _), Nat.sub_self, List.head?_eq_getElem?]
  rw [matchExpr_unit he]
  simp only [hat, Expr.reads_unit he]
  constructor
  · intro h
    cases left with
    | nil => cases h
    | cons c back =>
      by_cases hc : matchesUnit f c e = true
      · exact ⟨[c], back, rfl, ⟨c, rfl, hc⟩, by simpa [hc] using h⟩
      · simp [hc] at h
  · rintro ⟨piece, back, rfl, ⟨c, rfl, hc⟩, hrest⟩
    simpa [hc] using hrest

theorem match_run_iff_reads {least : Nat} {body : Expr} (hbody : body.isUnit = true)
    (ht : text = front ++ left) :
    (matchExpr text.toArray (.repeated least none .greedy body) f ⟨front.length, spans⟩ rest).isSome
        = true ↔
      ∃ piece back, left = piece ++ back ∧
        (Expr.repeated least none .greedy body).Reads f front piece back ∧
        (rest ⟨(front ++ piece).length, spans⟩).isSome = true := by
  have hleft : text.drop front.length = left := by rw [ht, List.drop_left]
  simp only [matchExpr, hbody, if_true, fewerAndFewer_isSome_iff, runLength_all, hleft,
    le_length_takeWhile_iff, Expr.Reads, List.length_append]
  constructor
  · rintro ⟨k, hleast, ⟨hk, hall⟩, hrest⟩
    have hlength : (left.take k).length = k := by rw [List.length_take, Nat.min_eq_left hk]
    refine ⟨left.take k, left.drop k, (List.take_append_drop k left).symm, ⟨?_, hall⟩, ?_⟩
    · rwa [hlength]
    · rwa [hlength]
  · rintro ⟨piece, back, rfl, ⟨hleast, hall⟩, hrest⟩
    exact ⟨piece.length, hleast, ⟨by simp, by rwa [List.take_left]⟩, hrest⟩

/-- The search from a place on comes to an end that is let through exactly if the expression reads a
piece of what is left with that end behind it. -/
theorem match_iff_reads {e : Expr} (he : e.isPlain = true) (ht : text = front ++ left) :
    (matchExpr text.toArray e f ⟨front.length, spans⟩ rest).isSome = true ↔
      ∃ piece back, left = piece ++ back ∧ e.Reads f front piece back ∧
        (rest ⟨(front ++ piece).length, spans⟩).isSome = true := by
  induction e generalizing front left rest with
  | empty =>
    simp only [matchExpr, Expr.Reads]
    constructor
    · exact fun h => ⟨[], left, rfl, rfl, by simpa using h⟩
    · rintro ⟨piece, back, -, rfl, hrest⟩
      simpa using hrest
  | one | oneBut | anyChar | oneOf => exact match_unit_iff_reads rfl ht
  | anchor a =>
    simp only [matchExpr, Expr.Reads]
    constructor
    · intro h
      by_cases ha : a.holds text.toArray f front.length = true
      · rw [if_pos ha] at h
        exact ⟨[], left, rfl, ⟨rfl, ht ▸ ha⟩, by simpa using h⟩
      · rw [if_neg ha] at h
        cases h
    · rintro ⟨piece, back, rfl, ⟨rfl, ha⟩, hrest⟩
      rw [if_pos (by simpa [ht] using ha)]
      simpa using hrest
  | seq a b iha ihb =>
    obtain ⟨ha, hb⟩ := Bool.and_eq_true_iff.mp he
    simp only [matchExpr, Expr.Reads]
    rw [iha ha ht]
    constructor
    · rintro ⟨first, back, rfl, hfirst, hrest⟩
      rw [ihb hb (by rw [ht, List.append_assoc])] at hrest
      obtain ⟨second, back, rfl, hsecond, hrest⟩ := hrest
      refine ⟨first ++ second, back, by simp, ⟨first, second, rfl, hfirst, hsecond⟩, ?_⟩
      simpa using hrest
    · rintro ⟨piece, back, rfl, ⟨first, second, rfl, hfirst, hsecond⟩, hrest⟩
      have hthere : text = (front ++ first) ++ (second ++ back) := by rw [ht]; simp
      refine ⟨first, second ++ back, by simp, hfirst, ?_⟩
      rw [ihb hb hthere]
      exact ⟨second, back, rfl, hsecond, by simpa using hrest⟩
  | either a b iha ihb =>
    obtain ⟨ha, hb⟩ := Bool.and_eq_true_iff.mp he
    have hor : (matchExpr text.toArray (.either a b) f ⟨front.length, spans⟩ rest).isSome = true ↔
        (matchExpr text.toArray a f ⟨front.length, spans⟩ rest).isSome = true ∨
        (matchExpr text.toArray b f ⟨front.length, spans⟩ rest).isSome = true := by
      rw [matchExpr]
      cases matchExpr text.toArray a f ⟨front.length, spans⟩ rest <;> simp
    rw [hor, iha ha ht, ihb hb ht]
    simp only [Expr.Reads, or_and_right, and_or_left, exists_or]
  | repeated least most mode body ih =>
    cases most with
    | some _ => cases he
    | none =>
      cases mode with
      | greedy => exact match_run_iff_reads he ht
      | _ => cases he
  | _ => cases he

end Matches

/-- A search finds a plain expression exactly in the texts of which it reads a piece. -/
theorem search_iff_reads {c : Compiled} (hc : c.expr.isPlain = true) (text : String) :
    c.search text = true ↔ ∃ front piece back, text.toList = front ++ (piece ++ back) ∧
      c.expr.Reads c.flags front piece back := by
  have hat : ∀ front left, text.toList = front ++ left →
      ((matchExpr text.toList.toArray c.expr c.flags ⟨front.length, []⟩ some).isSome = true ↔
        ∃ piece back, left = piece ++ back ∧ c.expr.Reads c.flags front piece back) := by
    intro front left ht
    simp only [match_iff_reads hc ht, Option.isSome_some, and_true]
  simp only [Compiled.search, List.any_eq_true, List.mem_range, List.size_toArray]
  constructor
  · rintro ⟨i, hi, hmatch⟩
    have hlength : (text.toList.take i).length = i := by rw [List.length_take]; omega
    rw [← hlength, hat _ _ (List.take_append_drop i text.toList).symm] at hmatch
    obtain ⟨piece, back, hleft, hreads⟩ := hmatch
    exact ⟨_, piece, back, by rw [← hleft, List.take_append_drop], hreads⟩
  · rintro ⟨front, piece, back, ht, hreads⟩
    refine ⟨front.length, ?_, (hat _ _ ht).mpr ⟨piece, back, rfl, hreads⟩⟩
    rw [ht, List.length_append]
    omega

/-! ## Ends of lines -/

theorem lineStart_holds_iff {front back : List Char} :
    Anchor.lineStart.holds (front ++ back).toArray {} front.length = true ↔ front = [] := by
  simp [Anchor.holds]

/-- A line ends at the end of the text, and in front of a line break that ends the text. -/
theorem lineEnd_holds_iff {front back : List Char} :
    Anchor.lineEnd.holds (front ++ back).toArray {} front.length = true ↔
      back = [] ∨ back = ['\n'] := by
  cases back with
  | nil => simp [Anchor.holds]
  | cons c back => simp [Anchor.holds, and_comm]

/-- What stands in a text in front of where its line ends, if no line break ends that itself. -/
theorem exists_line_iff {P : List Char → Prop} (h : ∀ line, P line → line.getLast? ≠ some '\n')
    {cs : List Char} :
    (∃ line back, cs = line ++ back ∧ P line ∧ (back = [] ∨ back = ['\n'])) ↔
      P (if cs.getLast? = some '\n' then cs.dropLast else cs) := by
  constructor
  · rintro ⟨line, back, rfl, hline, rfl | rfl⟩
    · rwa [List.append_nil, if_neg (h line hline)]
    · rwa [if_pos (by simp), List.dropLast_concat]
  · intro hP
    by_cases hlast : cs.getLast? = some '\n'
    · obtain ⟨line, rfl⟩ := List.getLast?_eq_some_iff.mp hlast
      rw [if_pos hlast, List.dropLast_concat] at hP
      exact ⟨line, _, rfl, hP, .inr rfl⟩
    · rw [if_neg hlast] at hP
      exact ⟨cs, [], (List.append_nil cs).symm, hP, .inl rfl⟩

end Pattern

end EntityStore
