import EntityStore.Proofs.Nearest
import EntityStore.Proofs.NumberText
import EntityStore.Proofs.ShortestDigits
import EntityStore.Proofs.Thresholds

/-! # Numbers in writing

Whole, decimal and binary numbers are written so that the text spells them. A reading of the text gives
them back, and a number that is whole is read as a whole number where its text has no exponent.
-/
namespace EntityStore

/-! ## What a text spells -/

/-- A text spells a number: a sign, a coefficient and a power of ten. None of the digits before the point
is needless. -/
inductive Spells : List Char → Bool → ℕ → ℤ → Prop where
  | intro (s : Bool) {whole fraction tail : List Char} {shift : ℤ}
    (wholeDigit : ∀ c ∈ whole, c.isDigit = true) (fractionDigit : ∀ c ∈ fraction, c.isDigit = true)
    (nonempty : whole ≠ []) (tight : whole.length ≤ digitCount (Nat.ofDigitChars 10 whole 0))
    (shifted : Tail tail shift) :
    Spells ((if s then ['-'] else []) ++ (pointText whole fraction ++ tail)) s
      (Nat.ofDigitChars 10 (whole ++ fraction) 0) (shift - fraction.length)

/-- The text of a number has an exponent. -/
def hasExponent (text : String) : Bool := text.toList.any fun c => c = 'e' || c = 'E'

namespace Spells

variable {text : String} {cs : List Char} {s : Bool} {c : ℕ} {x : ℤ}

theorem isNumberChar (h : Spells cs s c x) : ∀ d ∈ cs, EntityStore.isNumberChar d = true := by
  cases h with
  | intro _ hw hf _ _ ht => exact isNumberChar_signed _ hw hf ht

/-- What a text spells is the decimal number read from it. -/
theorem ofText? (h : Spells text.toList s c x) : Decimal.ofText? text =
    if Decimal.inRange c x then some (.finite s c x) else none := by
  rw [Decimal.ofText?]
  generalize text.toList = cs at h
  cases h with
  | intro _ hw hf hne _ ht => exact ofChars?_signed _ hw hf hne ht

/-- The binary number read from a text is nearest to what it spells. -/
theorem floatOfText (h : Spells text.toList s c x) :
    Coercion.floatOfText text = .ok (Binary64.ofScaled s c x) := by
  have htrim : Coercion.trimWhiteSpace text.toList = text.toList :=
    trim_eq fun d hd => isWhiteSpace_number (h.isNumberChar d hd)
  have hread : Coercion.readFloat? text.toList = some (Binary64.ofScaled s c x) := by
    generalize text.toList = cs at h
    cases h with
    | intro _ hw hf hne _ ht => exact readFloat?_signed _ hw hf hne ht
  simp only [Coercion.floatOfText, htrim, hread]

/-- Where a text spells a whole number without an exponent, the digits after the point are zeros. -/
theorem zeroFraction {whole fraction : List Char} (hf : ∀ d ∈ fraction, d.isDigit = true) {N : ℕ}
    (hN : Decimal.scaled (Nat.ofDigitChars 10 (whole ++ fraction) 0) (0 - fraction.length) = N) :
    Nat.ofDigitChars 10 whole 0 = N ∧
      ∃ rest, pointText whole fraction = whole ++ rest ∧ ZeroFraction rest := by
  set W := Nat.ofDigitChars 10 whole 0 with hW
  set F := Nat.ofDigitChars 10 fraction 0 with hF
  have hsum : Nat.ofDigitChars 10 (whole ++ fraction) 0 = 10 ^ fraction.length * W + F := by
    rw [Nat.ofDigitChars_append, Nat.ofDigitChars_eq_ofDigitChars_zero]
  have hlt : F < 10 ^ fraction.length := ofDigitChars_lt hf
  have hvalue : 10 ^ fraction.length * W + F = N * 10 ^ fraction.length := by
    rw [hsum, Decimal.scaled, zero_sub, zpow_neg, zpow_natCast, ← div_eq_mul_inv,
      div_eq_iff (by positivity)] at hN
    exact_mod_cast hN
  have hpow : 0 < 10 ^ fraction.length := by positivity
  have hWN : W = N := by
    refine le_antisymm (Nat.le_of_mul_le_mul_left ?_ hpow)
      (Nat.le_of_lt_succ (Nat.lt_of_mul_lt_mul_left (a := 10 ^ fraction.length) ?_))
    · rw [mul_comm _ N]
      omega
    · rw [mul_comm _ N, Nat.succ_eq_add_one, mul_add]
      omega
  have hFzero : F = 0 := by
    rw [hWN, mul_comm] at hvalue
    omega
  refine ⟨hWN, if fraction.isEmpty then [] else '.' :: fraction, rfl, ?_⟩
  split
  · exact .none
  · rename_i hne
    exact .zeros (by simpa using hne) (eq_zero_of_ofDigitChars hf hFzero)

/-- A text that spells a whole number without an exponent is read as a whole number. -/
theorem integerOfText (h : Spells text.toList s c x) (hplain : hasExponent text = false) {N : ℕ}
    (hN : Decimal.scaled c x = N) (hlen : digitCount N < Coercion.maxIntegerText) :
    Coercion.integerOfText text = .ok (if s then -(N : ℤ) else N) := by
  rw [hasExponent] at hplain
  generalize htext : text.toList = cs at h hplain
  cases h with
  | @intro _ whole fraction tail shift hw hf hne htight ht =>
    cases ht with
    | none =>
      obtain ⟨hWN, rest, hpoint, hrest⟩ := zeroFraction hf hN
      rw [List.append_nil, hpoint] at htext
      rw [hWN] at htight
      rw [← hWN]
      exact integerOfText_whole s hw hne (hWN ▸ htight) (by omega) hrest htext
    | exponent hmark negative hd hnd =>
      rcases hmark with rfl | rfl <;> simp at hplain

end Spells

/-! ## Digits around a point -/

section Points

/-- Digits with a point at some place, zeros in front of them where they do not reach it. -/
def pointedDigits (digits : List Char) (point : ℤ) : List Char :=
  if point ≤ 0 then '0' :: '.' :: (List.replicate (-point).toNat '0' ++ digits)
  else if (digits.length : ℤ) ≤ point then
    digits ++ List.replicate (point - digits.length).toNat '0'
  else digits.take point.toNat ++ '.' :: digits.drop point.toNat

theorem isDigit_toDigits {n : ℕ} {c : Char} (h : c ∈ Nat.toDigits 10 n) : c.isDigit = true :=
  Nat.isDigit_of_mem_toDigits (by decide) (by decide) h

/-- The first digits of a number are as many as they have to be. -/
theorem tight_take {n k : ℕ} (hk : k < digitCount n) :
    ((Nat.toDigits 10 n).take k).length ≤
      digitCount (Nat.ofDigitChars 10 ((Nat.toDigits 10 n).take k) 0) := by
  set W := Nat.ofDigitChars 10 ((Nat.toDigits 10 n).take k) 0 with hW
  have hlen : ((Nat.toDigits 10 n).take k).length = k := by
    rw [List.length_take]
    exact min_eq_left (le_of_lt hk)
  have hdrop : ((Nat.toDigits 10 n).drop k).length = digitCount n - k := List.length_drop
  rw [hlen]
  by_contra hlt
  rw [not_le] at hlt
  have hWlt : W < 10 ^ (k - 1) := by
    by_cases hone : 0 < k - 1
    · exact (digitCount_le_iff hone).mp (by omega)
    · have := digitCount_pos W
      omega
  have hn : n ≠ 0 := by
    rintro rfl
    have hdigits : digitCount 0 = 1 := rfl
    omega
  have hle : 10 ^ (digitCount n - 1) ≤ n := pow_le_of_lt_digitCount hn (by omega)
  have hvalue : n = 10 ^ (digitCount n - k) * W +
      Nat.ofDigitChars 10 ((Nat.toDigits 10 n).drop k) 0 := by
    rw [← hdrop, hW, ← Nat.ofDigitChars_eq_ofDigitChars_zero, ← Nat.ofDigitChars_append,
      List.take_append_drop, Nat.ofDigitChars_ten_toDigits]
  have hrest := ofDigitChars_lt fun c (hc : c ∈ (Nat.toDigits 10 n).drop k) =>
    isDigit_toDigits (List.mem_of_mem_drop hc)
  rw [hdrop] at hrest
  have hpow : 10 ^ (digitCount n - k) * 10 ^ (k - 1) = 10 ^ (digitCount n - 1) := by
    rw [← pow_add]
    congr 1
    omega
  have hmul : 10 ^ (digitCount n - k) * (W + 1) ≤ 10 ^ (digitCount n - k) * 10 ^ (k - 1) :=
    Nat.mul_le_mul_left _ hWlt
  rw [mul_add] at hmul
  omega

/-- Zeros behind the digits of a number are none of them needless, but for those behind a zero. -/
theorem tight_zeros {n z : ℕ} (hz : n = 0 → z = 0) :
    (Nat.toDigits 10 n ++ List.replicate z '0').length ≤
      digitCount (Nat.ofDigitChars 10 (Nat.toDigits 10 n ++ List.replicate z '0') 0) := by
  have hvalue : Nat.ofDigitChars 10 (Nat.toDigits 10 n ++ List.replicate z '0') 0 = 10 ^ z * n := by
    rw [Nat.ofDigitChars_append, Nat.ofDigitChars_ten_toDigits, Nat.ofDigitChars_replicate_zero]
  have hlen : (Nat.toDigits 10 n ++ List.replicate z '0').length = digitCount n + z := by
    rw [List.length_append, List.length_replicate]
    rfl
  rw [hvalue, hlen]
  by_cases hn : n = 0
  · rw [hz hn, hn]
    rfl
  · by_contra hlt
    rw [not_le] at hlt
    have hpos := digitCount_pos n
    have hcount := digitCount_pos (10 ^ z * n)
    have hle := (digitCount_le_iff (k := digitCount n + z - 1) (by omega)).mp
      (show digitCount (10 ^ z * n) ≤ digitCount n + z - 1 by omega)
    have hpow : 10 ^ (digitCount n + z - 1) = 10 ^ z * 10 ^ (digitCount n - 1) := by
      rw [← pow_add]
      congr 1
      omega
    have hbig : 10 ^ z * 10 ^ (digitCount n - 1) ≤ 10 ^ z * n :=
      Nat.mul_le_mul_left _ (pow_le_of_lt_digitCount hn (by omega))
    omega

variable {tail : List Char} {shift : ℤ}

theorem length_toDigits (n : ℕ) : (Nat.toDigits 10 n).length = digitCount n := rfl

/-- Digits behind a point, with zeros between. -/
theorem spells_front (s : Bool) (n z : ℕ) (ht : Tail tail shift) :
    Spells ((if s then ['-'] else []) ++
      ('0' :: '.' :: (List.replicate z '0' ++ Nat.toDigits 10 n) ++ tail)) s n
        (shift - z - digitCount n) := by
  have hdigit : ∀ c ∈ List.replicate z '0' ++ Nat.toDigits 10 n, c.isDigit = true := by
    intro c hc
    rcases List.mem_append.mp hc with hc | hc
    · rw [List.eq_of_mem_replicate hc]
      rfl
    · exact isDigit_toDigits hc
  have h := @Spells.intro s ['0'] _ tail shift (by simp) hdigit (by simp) (by decide) ht
  convert h using 1
  · simp [pointText, Nat.toDigits_ne_nil]
  · rw [List.singleton_append, Nat.ofDigitChars_cons, Nat.ofDigitChars_append,
      Nat.ofDigitChars_replicate_zero]
    simp
  · rw [List.length_append, List.length_replicate, length_toDigits]
    push_cast
    ring

/-- Digits with no point. -/
theorem spells_digits (s : Bool) (n : ℕ) (ht : Tail tail shift) :
    Spells ((if s then ['-'] else []) ++ (Nat.toDigits 10 n ++ tail)) s n shift := by
  have htight : (Nat.toDigits 10 n).length ≤
      digitCount (Nat.ofDigitChars 10 (Nat.toDigits 10 n) 0) := by
    rw [Nat.ofDigitChars_ten_toDigits, length_toDigits]
  have h := @Spells.intro s (Nat.toDigits 10 n) [] tail shift (fun c hc => isDigit_toDigits hc)
    (by simp) Nat.toDigits_ne_nil htight ht
  convert h using 1
  · simp [pointText]
  · simp
  · simp

/-- Digits with a point among them. -/
theorem spells_inside (s : Bool) {n k : ℕ} (hpos : 0 < k) (hk : k < digitCount n)
    (ht : Tail tail shift) :
    Spells ((if s then ['-'] else []) ++
      ((Nat.toDigits 10 n).take k ++ '.' :: (Nat.toDigits 10 n).drop k ++ tail)) s n
        (shift + k - digitCount n) := by
  have hdrop : (Nat.toDigits 10 n).drop k ≠ [] := by
    intro hnil
    have := congrArg List.length hnil
    rw [List.length_drop, List.length_nil, length_toDigits] at this
    omega
  have htake : (Nat.toDigits 10 n).take k ≠ [] := by
    intro hnil
    have := congrArg List.length hnil
    rw [List.length_take, List.length_nil, length_toDigits] at this
    omega
  have h := Spells.intro s (fun c hc => isDigit_toDigits (List.mem_of_mem_take hc))
    (fun c (hc : c ∈ (Nat.toDigits 10 n).drop k) => isDigit_toDigits (List.mem_of_mem_drop hc))
    htake (tight_take hk) ht
  convert h using 1
  · simp [pointText, hdrop]
  · rw [List.take_append_drop, Nat.ofDigitChars_ten_toDigits]
  · rw [List.length_drop, length_toDigits]
    omega

/-- Digits with a point at a place among them, or at one of their ends, spell their number. -/
theorem spells_pointed (s : Bool) (n : ℕ) (point : ℤ)
    (hpoint : digitCount n ≤ point → point = digitCount n) (ht : Tail tail shift) :
    Spells ((if s then ['-'] else []) ++ (pointedDigits (Nat.toDigits 10 n) point ++ tail)) s n
      (shift + point - digitCount n) := by
  rw [pointedDigits]
  by_cases hsmall : point ≤ 0
  · have hzeros : shift + point - digitCount n = shift - (-point).toNat - digitCount n := by omega
    rw [if_pos hsmall, hzeros]
    exact spells_front s n _ ht
  · rw [if_neg hsmall, length_toDigits]
    by_cases hlong : (digitCount n : ℤ) ≤ point
    · rw [if_pos hlong, hpoint hlong, sub_self, add_sub_cancel_right]
      simpa using spells_digits s n ht
    · obtain ⟨k, rfl⟩ := Int.eq_ofNat_of_zero_le (show 0 ≤ point by omega)
      rw [if_neg hlong, Int.toNat_natCast]
      exact spells_inside s (by omega) (by omega) ht

/-- Zeros behind the digits of a number, and one zero after a point. -/
theorem spells_zeros (s : Bool) {n z : ℕ} (hz : n = 0 → z = 0) :
    Spells ((if s then ['-'] else []) ++ (Nat.toDigits 10 n ++ List.replicate z '0' ++ ['.', '0'])) s
      (n * 10 ^ (z + 1)) (-1) := by
  have hne : Nat.toDigits 10 n ++ List.replicate z '0' ≠ [] := by simp [Nat.toDigits_ne_nil]
  have h := @Spells.intro s _ ['0'] _ _ (fun c hc => ?_) (by simp) hne (tight_zeros hz) Tail.none
  · convert h using 1
    · simp [pointText]
    · rw [Nat.ofDigitChars_append, Nat.ofDigitChars_append, Nat.ofDigitChars_ten_toDigits,
        Nat.ofDigitChars_replicate_zero, Nat.ofDigitChars_cons, Nat.ofDigitChars_nil]
      simp only [Nat.sub_self, Nat.add_zero]
      ring
    · rfl
  · rcases List.mem_append.mp hc with hc | hc
    · exact isDigit_toDigits hc
    · rw [List.eq_of_mem_replicate hc]
      rfl

end Points

/-! ## Writing -/

theorem toList_sign (s : Bool) : (if s then "-" else "").toList = if s then ['-'] else [] := by
  cases s <;> rfl

theorem toList_toString (n : ℤ) :
    (toString n).toList = (if decide (n < 0) then ['-'] else []) ++ Nat.toDigits 10 n.natAbs := by
  cases n with
  | ofNat n =>
    have hrepr : toString (Int.ofNat n) = String.ofList (Nat.toDigits 10 n) := Nat.repr_eq_ofList_toDigits
    have hneg : ¬ Int.ofNat n < 0 := Int.not_lt.mpr (Int.natCast_nonneg n)
    rw [hrepr, String.toList_ofList, decide_eq_false hneg]
    rfl
  | negSucc n =>
    have hrepr : toString (Int.negSucc n) = "-" ++ (n + 1).repr := rfl
    have hneg : Int.negSucc n < 0 := Int.negSucc_lt_zero n
    rw [hrepr, String.toList_append, Nat.repr_eq_ofList_toDigits, String.toList_ofList,
      String.toList_ofList, decide_eq_true hneg]
    rfl

theorem spells_toString (n : ℤ) : Spells (toString n).toList (decide (n < 0)) n.natAbs 0 := by
  have h := spells_pointed (decide (n < 0)) n.natAbs _ (fun _ => rfl) Tail.none
  have hdigits : pointedDigits (Nat.toDigits 10 n.natAbs) (digitCount n.natAbs) =
      Nat.toDigits 10 n.natAbs := by
    have hpos := digitCount_pos n.natAbs
    have hlen : (Nat.toDigits 10 n.natAbs).length = digitCount n.natAbs := rfl
    rw [pointedDigits, if_neg (by omega), hlen, if_pos le_rfl]
    simp
  rw [hdigits, List.append_nil, zero_add, sub_self] at h
  rw [toList_toString]
  exact h

namespace Decimal

/-- A decimal number is written as it is: no digit is dropped or added. -/
theorem toText_spells (s : Bool) (c : ℕ) (x : ℤ) : Spells (toText (finite s c x)).toList s c x := by
  have hlen : (Nat.toDigits 10 c).length = digitCount c := rfl
  have hbody : ∀ point : ℤ,
      (if point ≤ 0 then "0." ++ zeros (-point).toNat ++ String.ofList (Nat.toDigits 10 c)
        else if (digitCount c : ℤ) ≤ point then
          String.ofList (Nat.toDigits 10 c) ++ zeros (point - digitCount c).toNat
        else String.ofList ((Nat.toDigits 10 c).take point.toNat) ++ "." ++
          String.ofList ((Nat.toDigits 10 c).drop point.toNat)).toList =
        pointedDigits (Nat.toDigits 10 c) point := by
    intro point
    rw [pointedDigits, hlen]
    split_ifs <;> simp [zeros]
  by_cases hplace : x ≤ 0 ∧ -6 < x + digitCount c
  · have hpositional : (decide (x ≤ 0) && decide (-6 < x + digitCount c)) = true := by simp [hplace]
    have h := spells_pointed s c (x + digitCount c) (by omega) Tail.none
    rw [zero_add, add_sub_cancel_right, List.append_nil] at h
    simp only [toText, hlen, hpositional, if_true, String.toList_append, toList_sign, hbody]
    simpa using h
  · have hscientific : (decide (x ≤ 0) && decide (-6 < x + digitCount c)) = false := by
      rw [Bool.and_eq_false_iff, decide_eq_false_iff_not, decide_eq_false_iff_not]
      exact not_and_or.mp hplace
    have hpos := digitCount_pos c
    have htail : Tail ('E' :: (if x + digitCount c - 1 < 0 then '-' else '+') ::
        Nat.toDigits 10 (x + digitCount c - 1).natAbs) (x + digitCount c - 1) :=
      .of_digits (.inr rfl) (fun d hd => isDigit_toDigits hd) Nat.toDigits_ne_nil
        Nat.ofDigitChars_ten_toDigits
    have h := spells_pointed s c 1 (by omega) htail
    rw [show x + digitCount c - 1 + 1 - digitCount c = x by ring] at h
    have hmark : ("E" : String).toList = ['E'] := rfl
    have hsign : ∀ e : ℤ, (if e < 0 then "-" else "+").toList = [if e < 0 then '-' else '+'] := by
      intro e
      split <;> rfl
    simp only [toText, hlen, hscientific, Bool.false_eq_true, if_false, String.toList_append,
      toList_sign, hbody, decimalDigits, String.toList_ofList, hmark, hsign, List.append_assoc,
      List.cons_append, List.nil_append]
    exact h

end Decimal

namespace Binary64

/-- The digits of an exponent, at least two. -/
def exponentDigits (e : ℤ) : List Char :=
  if digitCount e.natAbs < 2 then '0' :: Nat.toDigits 10 e.natAbs else Nat.toDigits 10 e.natAbs

theorem exponentText_toList (e : ℤ) :
    (exponentText e).toList = (if e < 0 then '-' else '+') :: exponentDigits e := by
  have hlen : (decimalDigits e.natAbs).length = digitCount e.natAbs := String.length_ofList
  have hsign : (if e < 0 then "-" else "+").toList = [if e < 0 then '-' else '+'] := by
    split <;> rfl
  rw [exponentText, exponentDigits]
  simp only [hlen, String.toList_append, hsign, List.singleton_append]
  congr 1
  split <;> simp [decimalDigits]

theorem tail_exponent (e : ℤ) : Tail ('e' :: (exponentText e).toList) e := by
  rw [exponentText_toList]
  refine .of_digits (.inl rfl) ?_ ?_ ?_
  · intro c hc
    rw [exponentDigits] at hc
    split at hc
    · rcases List.mem_cons.mp hc with rfl | hc
      · rfl
      · exact isDigit_toDigits hc
    · exact isDigit_toDigits hc
  · rw [exponentDigits]
    split <;> simp [Nat.toDigits_ne_nil]
  · rw [exponentDigits]
    split
    · rw [Nat.ofDigitChars_cons]
      exact Nat.ofDigitChars_ten_toDigits
    · exact Nat.ofDigitChars_ten_toDigits

/-- The place of the point, counted from the first of the shortest digits. -/
def pointPlace (m : ℕ) (e : ℤ) : ℤ := digitCount (shortest m e).1 + (shortest m e).2

variable {m : ℕ} {e : ℤ}

theorem pointedDigits_one (n : ℕ) : pointedDigits (Nat.toDigits 10 n) 1 =
    match Nat.toDigits 10 n with
    | c :: [] => [c]
    | c :: rest => c :: '.' :: rest
    | [] => [] := by
  rw [pointedDigits]
  rcases hdigits : Nat.toDigits 10 n with _ | ⟨c, _ | ⟨d, rest⟩⟩
  · exact absurd hdigits Nat.toDigits_ne_nil
  · simp
  · simp

theorem toText_toList (s : Bool) (hf : isNormalForm m e = true) :
    (toText (finite s m e hf)).toList = (if s then ['-'] else []) ++
      if -3 ≤ pointPlace m e ∧ pointPlace m e ≤ 16 then
        if digitCount (shortest m e).1 ≤ pointPlace m e then
          Nat.toDigits 10 (shortest m e).1 ++ List.replicate (shortest m e).2.toNat '0' ++ ['.', '0']
        else pointedDigits (Nat.toDigits 10 (shortest m e).1) (pointPlace m e)
      else pointedDigits (Nat.toDigits 10 (shortest m e).1) 1 ++
        'e' :: (exponentText (pointPlace m e - 1)).toList := by
  have hlen : (decimalDigits (shortest m e).1).length = digitCount (shortest m e).1 :=
    String.length_ofList
  have hlength : (Nat.toDigits 10 (shortest m e).1).length = digitCount (shortest m e).1 := rfl
  have hpos := digitCount_pos (shortest m e).1
  have hplace : ((digitCount (shortest m e).1 : ℕ) : ℤ) + (shortest m e).2 = pointPlace m e := rfl
  have hzeros : pointPlace m e - digitCount (shortest m e).1 = (shortest m e).2 := by
    rw [pointPlace]
    ring
  simp only [toText, hlen, hplace, String.toList_append, toList_sign, hzeros]
  congr 1
  by_cases hrange : -3 ≤ pointPlace m e ∧ pointPlace m e ≤ 16
  · rw [if_pos hrange, if_pos hrange]
    by_cases hlong : (digitCount (shortest m e).1 : ℤ) ≤ pointPlace m e
    · rw [if_neg (by omega), if_pos hlong, if_pos hlong]
      simp [decimalDigits, zeros]
    · rw [if_neg hlong, if_neg hlong, pointedDigits, hlength]
      split_ifs <;> simp [decimalDigits, zeros]
  · rw [if_neg hrange, if_neg hrange, pointedDigits_one, decimalDigits, String.toList_ofList]
    have hmark : ("e" : String).toList = ['e'] := rfl
    rw [String.toList_append, String.toList_append, hmark, List.append_assoc, List.singleton_append]
    congr 1
    rcases hdigits : Nat.toDigits 10 (shortest m e).1 with _ | ⟨c, _ | ⟨d, rest⟩⟩ <;> simp

/-- Only zero has no digit but zero. -/
theorem shortest_eq_zero (hf : isNormalForm m e = true) (h : (shortest m e).1 = 0) :
    (shortest m e).2 = 0 := by
  by_cases hm : m = 0
  · rw [shortest, if_pos hm]
  · have hpos := (shortest_within hf hm).pos hm
    rw [h, Decimal.scaled, Nat.cast_zero, zero_mul] at hpos
    exact absurd hpos (lt_irrefl 0)

/-- What the text of a binary number spells has the value of its shortest digits. -/
theorem toText_spells (s : Bool) (hf : isNormalForm m e = true) : ∃ c x,
    Spells (toText (finite s m e hf)).toList s c x ∧
      Decimal.scaled c x = Decimal.scaled (shortest m e).1 (shortest m e).2 := by
  rw [toText_toList]
  have hplace : ((digitCount (shortest m e).1 : ℕ) : ℤ) + (shortest m e).2 = pointPlace m e := rfl
  by_cases hrange : -3 ≤ pointPlace m e ∧ pointPlace m e ≤ 16
  · rw [if_pos hrange]
    by_cases hlong : (digitCount (shortest m e).1 : ℤ) ≤ pointPlace m e
    · rw [if_pos hlong]
      have hp : 0 ≤ (shortest m e).2 := by omega
      refine ⟨_, _, spells_zeros s ?_, ?_⟩
      · intro hzero
        rw [shortest_eq_zero hf hzero]
        rfl
      · rw [Decimal.scaled_mul_pow]
        congr 1
        push_cast
        omega
    · rw [if_neg hlong]
      have h := spells_pointed s (shortest m e).1 _ (fun hle => absurd hle hlong) Tail.none
      rw [List.append_nil, zero_add, ← hplace, add_sub_cancel_left, hplace] at h
      exact ⟨_, _, h, rfl⟩
  · rw [if_neg hrange]
    have hpos := digitCount_pos (shortest m e).1
    have h := spells_pointed s (shortest m e).1 1 (by omega)
      (tail_exponent (pointPlace m e - 1))
    rw [sub_add_cancel, ← hplace, add_sub_cancel_left, hplace] at h
    exact ⟨_, _, h, rfl⟩

end Binary64

/-! ## Reading what was written -/

section Reading

/-- A decimal number is read back as it was written, its sign and zeros included. -/
theorem Decimal.ofText?_toText {s : Bool} {c : ℕ} {x : ℤ} (h : inRange c x = true) :
    ofText? (toText (finite s c x)) = some (finite s c x) := by
  rw [(toText_spells s c x).ofText?, if_pos h]

theorem Decimal.ofText?_toString {n : ℤ} (h : inRange n.natAbs 0 = true) :
    ofText? (toString n) = some (ofInt n) := by
  rw [(spells_toString n).ofText?, if_pos h, ofInt]

/-- A whole number beyond the finite binary numbers is endless however it is reached. -/
theorem Binary64.ofScaled_whole (s : Bool) {n : ℕ} (hn : n ≠ 0) : ofScaled s n 0 = ofRatio s n 1 := by
  have hlen : (Nat.toDigits 10 n).length = digitCount n := rfl
  have hpos := digitCount_pos n
  have hlow : ¬ (digitCount n : ℤ) + 0 < -400 := by omega
  by_cases htop : 400 < (digitCount n : ℤ) + 0
  · have hbig : overflowBound ≤ (n : ℚ) / (1 : ℕ) := by
      have hle : ((10 ^ 400 : ℕ) : ℚ) ≤ n := by
        exact_mod_cast pow_le_of_lt_digitCount hn (show 400 < digitCount n by omega)
      rw [Nat.cast_one, div_one]
      refine (overflowBound_bounds.2.trans (two_pow_lt_ten_pow (by norm_num))).le.trans ?_
      rw [zpow_ofNat]
      exact_mod_cast hle
    rw [ofRatio_overflow s (Nat.pos_of_ne_zero hn) Nat.one_pos hbig]
    simp only [ofScaled, if_neg hn, hlen, if_pos htop]
  · simp only [ofScaled, if_neg hn, hlen, if_neg htop, if_neg hlow]
    simp

theorem Coercion.floatOfText_toString (n : ℤ) :
    floatOfText (toString n) = .ok (Binary64.ofInt n) := by
  rw [(spells_toString n).floatOfText, Binary64.ofInt]
  by_cases hn : n.natAbs = 0
  · rw [hn, Int.natAbs_eq_zero.mp hn]
    rfl
  · rw [Binary64.ofScaled_whole _ hn]

theorem Coercion.floatOfText_decimal (s : Bool) (c : ℕ) (x : ℤ) :
    floatOfText (Decimal.toText (.finite s c x)) = .ok (Binary64.ofScaled s c x) :=
  (Decimal.toText_spells s c x).floatOfText

/-- A finite binary number is read back from its text, to the last bit. -/
theorem Coercion.floatOfText_toText {x : Binary64} (h : x.isFinite = true) :
    floatOfText x.toText = .ok x := by
  cases x with
  | infinity s => cases h
  | nan => cases h
  | finite s m e hf =>
    obtain ⟨c, k, hspells, hvalue⟩ := Binary64.toText_spells s hf
    rw [hspells.floatOfText]
    by_cases hm : m = 0
    · subst hm
      have hc : c = 0 := by
        have hzero : Decimal.scaled c k = 0 := by
          rw [hvalue]
          simp [Binary64.shortest, Decimal.scaled]
        simpa [Decimal.scaled, zpow_ne_zero] using hzero
      have he : e = Binary64.minExponent := by
        rcases (Binary64.isNormalForm_iff.mp hf).2 with he | ⟨hfull, -⟩
        · exact he
        · omega
      subst hc he
      rfl
    · rw [Binary64.ofScaled_within s hf hm (hvalue ▸ Binary64.shortest_within hf hm)]

/-! ## Whole numbers in other forms -/

theorem digitCount_word {N : ℕ} (h : (N : ℤ) ≤ signedBound 64) :
    digitCount N < Coercion.maxIntegerText := by
  have hbound : signedBound 64 = 9223372036854775808 := rfl
  have hle : digitCount N ≤ 19 := (digitCount_le_iff (by decide)).mpr (by omega)
  rw [Coercion.maxIntegerText]
  omega

theorem Coercion.integerOfText_toString {n : ℤ} (h : (n.natAbs : ℤ) ≤ signedBound 64) :
    integerOfText (toString n) = .ok n := by
  have hplain : hasExponent (toString n) = false := by
    rw [hasExponent, List.any_eq_false]
    intro c hc
    rw [toList_toString] at hc
    rcases List.mem_append.mp hc with hc | hc
    · split at hc
      · obtain rfl : c = '-' := by simpa using hc
        decide
      · cases hc
    · have hd := isDigit_toDigits hc
      simp only [Bool.or_eq_true, decide_eq_true_eq, not_or]
      constructor <;> (rintro rfl; cases hd)
  have hread := (spells_toString n).integerOfText hplain (N := n.natAbs) (by simp [Decimal.scaled])
    (digitCount_word h)
  rw [hread]
  by_cases hn : n < 0
  · simp only [hn, decide_true, if_true, Int.ofNat_natAbs_of_nonpos hn.le, neg_neg]
  · simp only [hn, decide_false, Bool.false_eq_true, if_false, Int.natAbs_of_nonneg (not_lt.mp hn)]

/-- A decimal number that is whole, as a whole number. -/
theorem Decimal.truncate?_whole {s : Bool} {c : ℕ} {x : ℤ} {n : ℤ}
    (ht : (finite s c x).truncate? = some n) (hi : (finite s c x).isIntegral = true) :
    ∃ N : ℕ, scaled c x = N ∧ n = if s then -(N : ℤ) else N := by
  simp only [truncate?, Option.some.injEq] at ht
  simp only [isIntegral] at hi
  by_cases hx : 0 ≤ x
  · rw [if_pos hx] at ht
    refine ⟨c * 10 ^ x.toNat, ?_, ht.symm⟩
    lift x to ℕ using hx
    simp [scaled]
  · rw [if_neg hx] at ht
    obtain ⟨k, rfl⟩ := Int.exists_eq_neg_ofNat (not_le.mp hx).le
    have hk : (-(k : ℤ)).natAbs = k := by simp
    rw [hk] at ht hi
    by_cases hc : c = 0
    · subst hc
      refine ⟨0, by simp [scaled], ?_⟩
      rw [← ht]
      have hzero : (if digitCount 0 ≤ k then 0 else 0 / Nat.pow 10 k) = 0 := by
        split <;> simp
      rw [hzero]
    · have hneither : ¬ (0 ≤ -(k : ℤ) ∨ c = 0) := not_or.mpr ⟨hx, hc⟩
      rw [if_neg hneither] at hi
      by_cases hdigits : digitCount c ≤ k
      · rw [if_pos hdigits] at hi
        cases hi
      · rw [if_neg hdigits] at hi ht
        refine ⟨c / 10 ^ k, ?_, ht.symm⟩
        obtain ⟨w, rfl⟩ : 10 ^ k ∣ c := Nat.dvd_of_mod_eq_zero (by simpa using hi)
        rw [Nat.mul_div_cancel_left w (by positivity), mul_comm, scaled_mul_pow, neg_add_cancel]
        simp [scaled]

/-- A whole decimal number is read as a whole number where its text has no exponent. -/
theorem Coercion.integerOfText_decimal {s : Bool} {c : ℕ} {x : ℤ} {n : ℤ}
    (ht : (Decimal.finite s c x).truncate? = some n)
    (hi : (Decimal.finite s c x).isIntegral = true)
    (hplain : hasExponent (Decimal.toText (.finite s c x)) = false)
    (hn : (n.natAbs : ℤ) ≤ signedBound 64) :
    integerOfText (Decimal.toText (.finite s c x)) = .ok n := by
  obtain ⟨N, hN, rfl⟩ := Decimal.truncate?_whole ht hi
  have hword : (N : ℤ) ≤ signedBound 64 := by
    cases s <;> simpa using hn
  exact (Decimal.toText_spells s c x).integerOfText hplain hN (digitCount_word hword)

theorem Coercion.integerOfFloat_ok {x : Binary64} {n : ℤ} (h : integerOfFloat x = .ok n) :
    x.toRat? = some (n : ℚ) ∧ (n.natAbs : ℤ) ≤ signedBound 64 := by
  cases x with
  | infinity s => cases h
  | nan => cases h
  | finite s m e hf =>
    obtain ⟨num, den, hr, hd, -⟩ := Binary64.ratio?_finite s m e hf
    simp only [integerOfFloat, hr] at h
    split_ifs at h with hmod hrange
    cases h
    constructor
    · obtain ⟨k, rfl⟩ := Int.dvd_of_emod_eq_zero (not_not.mp hmod)
      have hdz : (den : ℤ) ≠ 0 := by omega
      have hdq : (den : ℚ) ≠ 0 := by exact_mod_cast hd.ne'
      simp only [Binary64.toRat?, hr, Option.map_some, Int.mul_ediv_cancel_left k hdz,
        Rat.mkRat_eq_div, Option.some.injEq]
      push_cast
      rw [mul_div_cancel_left₀ _ hdq]
    · omega

/-- A number of seventeen digits before the point has an exponent. -/
theorem Binary64.hasExponent_toText {m : ℕ} {e : ℤ} (s : Bool) (hf : isNormalForm m e = true)
    (hm : m ≠ 0) (h : (10 : ℚ) ^ (16 : ℤ) ≤ dyadic m e) :
    hasExponent (toText (finite s m e hf)) = true := by
  have hzero : (shortest m e).1 ≠ 0 := by
    intro hzero
    have hpos := (shortest_within hf hm).pos hm
    rw [hzero, Decimal.scaled, Nat.cast_zero, zero_mul] at hpos
    exact lt_irrefl 0 hpos
  have hplace : 16 < pointPlace m e := by
    have hlead := h.trans_lt (leadingPlace_spec hf hm).2
    have hfirst := (leading_le hf hm).trans_lt (scaled_bounds (shortest m e).2 hzero).2
    have h1 := (zpow_lt_zpow_iff_right₀ (by norm_num : (1 : ℚ) < 10)).mp hlead
    have h2 := (zpow_lt_zpow_iff_right₀ (by norm_num : (1 : ℚ) < 10)).mp hfirst
    rw [pointPlace]
    omega
  have hrange : ¬ (-3 ≤ pointPlace m e ∧ pointPlace m e ≤ 16) := fun hin => not_lt.mpr hin.2 hplace
  rw [hasExponent, toText_toList, if_neg hrange, List.any_eq_true]
  exact ⟨'e', by simp, by decide⟩

/-- A whole binary number is read as a whole number where its text has no exponent. -/
theorem Coercion.integerOfText_toText {x : Binary64} {n : ℤ} (h : integerOfFloat x = .ok n)
    (hplain : hasExponent x.toText = false) : integerOfText x.toText = .ok n := by
  obtain ⟨hvalue, hword⟩ := integerOfFloat_ok h
  cases x with
  | infinity s => cases hvalue
  | nan => cases hvalue
  | finite s m e hf =>
    rw [Binary64.toRat?_finite, Option.some.injEq] at hvalue
    have hnat : Binary64.dyadic m e = (n.natAbs : ℚ) := by
      rw [Nat.cast_natAbs, Int.cast_abs, ← hvalue]
      cases s <;> simp [abs_of_nonneg (Binary64.dyadic_nonneg m e)]
    have hsigned : n = if s then -(n.natAbs : ℤ) else n.natAbs := by
      rw [hnat] at hvalue
      have : ((if s then -(n.natAbs : ℤ) else n.natAbs : ℤ) : ℚ) = n := by
        rw [← hvalue]
        cases s <;> simp
      exact_mod_cast this.symm
    obtain ⟨c, k, hspells, hshortest⟩ := Binary64.toText_spells s hf
    have hwhole : Decimal.scaled c k = (n.natAbs : ℕ) := by
      rw [hshortest]
      by_cases hm : m = 0
      · subst hm
        rw [← hnat]
        simp [Binary64.shortest, Decimal.scaled, Binary64.dyadic]
      · have hlt : n.natAbs < 10 ^ 16 := by
          by_contra hge
          have hbig : (10 : ℚ) ^ (16 : ℤ) ≤ Binary64.dyadic m e := by
            rw [hnat]
            exact_mod_cast not_lt.mp hge
          rw [Binary64.hasExponent_toText s hf hm hbig] at hplain
          cases hplain
        exact (Binary64.shortest_whole hf hm hnat hlt).2
    rw [hspells.integerOfText hplain hwhole (digitCount_word hword), ← hsigned]

end Reading

end EntityStore
