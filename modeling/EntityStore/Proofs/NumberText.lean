import EntityStore.Coercion
import EntityStore.Proofs.DecimalValue
import EntityStore.Proofs.DigitText
import Mathlib.Data.List.TakeWhile

/-! # Texts of numbers

A number is written with a sign, digits that may have a point among them, and an exponent or none.
Such a text is read as the number that it spells, whether a decimal number is wanted, a binary or a whole
one.
-/
namespace EntityStore

/-! ## Characters of numbers -/

section Characters

/-- The characters that numbers are written in. -/
def isNumberChar (c : Char) : Bool :=
  c.isDigit || c = '-' || c = '+' || c = '.' || c = 'e' || c = 'E'

theorem isNumberChar_digit {c : Char} (h : c.isDigit = true) : isNumberChar c = true := by
  simp [isNumberChar, h]

theorem isNumberChar_toNat {c : Char} (h : isNumberChar c = true) :
    c.toNat = 43 ∨ c.toNat = 45 ∨ c.toNat = 46 ∨ c.toNat = 69 ∨ c.toNat = 101 ∨
      48 ≤ c.toNat ∧ c.toNat ≤ 57 := by
  simp only [isNumberChar, Bool.or_eq_true, decide_eq_true_eq] at h
  rcases h with ((((h | rfl) | rfl) | rfl) | rfl) | rfl
  · have := digit_bounds h
    omega
  all_goals decide

theorem isBlank_number {c : Char} (h : isNumberChar c = true) : isBlank c = false := by
  have := isNumberChar_toNat h
  simp only [isBlank, isWhiteSpace]
  simp
  omega

theorem isWhiteSpace_number {c : Char} (h : isNumberChar c = true) : isWhiteSpace c = false := by
  have hb := isBlank_number h
  rw [isBlank, Bool.or_eq_false_iff] at hb
  exact hb.1

variable {cs : List Char}

/-- Nothing is trimmed off a text that has none of what would be. -/
theorem trim_eq {p : Char → Bool} (h : ∀ c ∈ cs, p c = false) :
    ((cs.dropWhile p).reverse.dropWhile p).reverse = cs := by
  have hd : ∀ l : List Char, (∀ c ∈ l, p c = false) → l.dropWhile p = l := by
    intro l hl
    cases l with
    | nil => rfl
    | cons c l => simp [hl c (by simp)]
  rw [hd cs h, hd _ (by simpa using h), List.reverse_reverse]

theorem toLower_of_lt {c : Char} (h : c.toNat < 65) : c.toLower = c := by
  refine dif_neg ?_
  rintro ⟨hl, -⟩
  have : 65 ≤ c.toNat := hl
  omega

theorem lowerAscii_of_lt (h : ∀ c ∈ cs, c.toNat < 65) : Decimal.lowerAscii cs = cs :=
  (List.map_congr_left fun c hc => toLower_of_lt (h c hc)).trans (List.map_id _)

/-- A number is read in the characters in which it stands. -/
theorem asciiForm_number (h : ∀ c ∈ cs, isNumberChar c = true) : Decimal.asciiForm cs = cs := by
  have hf : cs.filter (· ≠ '_') = cs := by
    refine List.filter_eq_self.mpr ?_
    intro c hc
    have := h c hc
    by_contra hu
    simp only [decide_not, Bool.not_eq_true, Bool.not_eq_false', decide_eq_true_eq] at hu
    subst hu
    cases this
  have ht : trimBlanks cs = cs := trim_eq fun c hc => isBlank_number (h c hc)
  simp only [Decimal.asciiForm, ht, hf]
  refine (List.map_congr_left ?_).trans (List.map_id _)
  intro c hc
  have hlt : c.toNat < 128 := by
    have := isNumberChar_toNat (h c hc)
    omega
  simp only [decimalValue?, if_pos hlt, id_eq]
  by_cases hd : c.isDigit = true
  · have := digit_bounds hd
    simp only [if_pos hd, Nat.add_sub_cancel' this.1, Char.ofNat_toNat]
  · simp only [if_neg hd]

end Characters

/-! ## Exponents -/

/-- The end of a number: nothing, or an exponent with its sign. -/
inductive Tail : List Char → ℤ → Prop where
  | none : Tail [] 0
  | exponent {mark : Char} (capital : mark = 'e' ∨ mark = 'E') (negative : Bool)
    {digits : List Char} (digit : ∀ c ∈ digits, c.isDigit = true) (nonempty : digits ≠ []) :
    Tail (mark :: (if negative then '-' else '+') :: digits)
      (if negative then -(Nat.ofDigitChars 10 digits 0 : ℤ) else Nat.ofDigitChars 10 digits 0)

namespace Tail

variable {tail : List Char} {shift : ℤ}

/-- An end is read as the power of ten that it gives. -/
theorem lower (h : Tail tail shift) : Decimal.lowerAscii tail = [] ∧ shift = 0 ∨
    ∃ rest, Decimal.lowerAscii tail = 'e' :: rest ∧ Decimal.readExponent? rest = some shift := by
  cases h with
  | none => exact .inl ⟨rfl, rfl⟩
  | @exponent mark hmark negative digits hd hne =>
    refine .inr ⟨(if negative then '-' else '+') :: digits, ?_, ?_⟩
    · have hlow : Decimal.lowerAscii digits = digits := lowerAscii_of_lt fun c hc => by
        have := digit_bounds (hd c hc)
        omega
      have hsign : (if negative then '-' else '+' : Char).toLower = if negative then '-' else '+' := by
        cases negative <;> rfl
      have hmark : mark.toLower = 'e' := by
        rcases hmark with rfl | rfl <;> rfl
      rw [Decimal.lowerAscii, List.map_cons, List.map_cons, hmark, hsign, ← Decimal.lowerAscii, hlow]
    · have hvalue := digitsValue?_eq hd
      cases negative <;> simp [Decimal.readExponent?, Decimal.splitSign, hne, hvalue]

theorem isNumberChar (h : Tail tail shift) : ∀ c ∈ tail, EntityStore.isNumberChar c = true := by
  intro c hc
  cases h with
  | none => cases hc
  | exponent hmark negative hd hne =>
    rcases List.mem_cons.mp hc with rfl | hc
    · rcases hmark with rfl | rfl <;> rfl
    · rcases List.mem_cons.mp hc with rfl | hc
      · cases negative <;> rfl
      · exact isNumberChar_digit (hd c hc)

/-- The end of a power of ten that is not zero. -/
theorem of_digits {mark : Char} (hmark : mark = 'e' ∨ mark = 'E') {e : ℤ} {digits : List Char}
    (hd : ∀ c ∈ digits, c.isDigit = true) (hne : digits ≠ [])
    (he : Nat.ofDigitChars 10 digits 0 = e.natAbs) :
    Tail (mark :: (if e < 0 then '-' else '+') :: digits) e := by
  have h := Tail.exponent hmark (decide (e < 0)) hd hne
  rw [he] at h
  by_cases hneg : e < 0
  · simp only [hneg, decide_true, if_true] at h ⊢
    rwa [Int.ofNat_natAbs_of_nonpos hneg.le, neg_neg] at h
  · simp only [hneg, decide_false, Bool.false_eq_true, if_false] at h ⊢
    rwa [Int.natAbs_of_nonneg (not_lt.mp hneg)] at h

end Tail

/-! ## Digits with a point -/

section Digits

variable {whole fraction tail : List Char} {shift : ℤ}

/-- Digits with a point among them, in the form that a reading of a decimal number takes. -/
def pointText (whole fraction : List Char) : List Char :=
  whole ++ if fraction.isEmpty then [] else '.' :: fraction

theorem mem_pointText {c : Char} (h : c ∈ pointText whole fraction) :
    c ∈ whole ∨ c = '.' ∨ c ∈ fraction := by
  rcases List.mem_append.mp h with h | h
  · exact .inl h
  · split at h
    · cases h
    · exact .inr (List.mem_cons.mp h)

theorem lowerAscii_pointText (hw : ∀ c ∈ whole, c.isDigit = true)
    (hf : ∀ c ∈ fraction, c.isDigit = true) :
    Decimal.lowerAscii (pointText whole fraction) = pointText whole fraction := by
  refine lowerAscii_of_lt fun c hc => ?_
  rcases mem_pointText hc with h | rfl | h
  · have := digit_bounds (hw c h)
    omega
  · decide
  · have := digit_bounds (hf c h)
    omega

/-- The digits after a point, and what follows them. -/
def fractionParts (rest : List Char) : List Char × List Char :=
  match rest with
  | '.' :: tail => (tail.takeWhile Char.isDigit, tail.dropWhile Char.isDigit)
  | _ => ([], rest)

/-- A number is read from its digits, its fraction and its end. -/
theorem readScaled?_parts {text rest : List Char} (hne : whole ≠ [])
    (hvalue : Decimal.digitsValue? (whole ++ fraction) =
      some (Nat.ofDigitChars 10 (whole ++ fraction) 0))
    (hwhole : text.takeWhile Char.isDigit = whole) (hrest : text.dropWhile Char.isDigit = rest)
    (hfraction : fractionParts rest = (fraction, Decimal.lowerAscii tail)) (ht : Tail tail shift) :
    Decimal.readScaled? text =
      some (Nat.ofDigitChars 10 (whole ++ fraction) 0, shift - fraction.length) := by
  have hempty : whole.isEmpty = false := by simp [hne]
  rw [Decimal.readScaled?, hwhole]
  split
  rename_i fraction' rest' hsplit
  have hsame : (fraction', rest') = (fraction, Decimal.lowerAscii tail) :=
    hsplit.symm.trans ((congrArg fractionParts hrest).trans hfraction)
  obtain ⟨rfl, rfl⟩ := Prod.mk.inj hsame
  rw [hempty, hvalue]
  rcases ht.lower with ⟨h, rfl⟩ | ⟨more, h, hr⟩
  · rw [h]
    rfl
  · rw [h]
    simp [hr]

theorem readScaled?_pointText (hw : ∀ c ∈ whole, c.isDigit = true)
    (hf : ∀ c ∈ fraction, c.isDigit = true) (hne : whole ≠ []) (ht : Tail tail shift) :
    Decimal.readScaled? (Decimal.lowerAscii (pointText whole fraction ++ tail)) =
      some (Nat.ofDigitChars 10 (whole ++ fraction) 0, shift - fraction.length) := by
  have hlow : Decimal.lowerAscii (pointText whole fraction ++ tail) =
      pointText whole fraction ++ Decimal.lowerAscii tail := by
    rw [Decimal.lowerAscii, List.map_append, ← Decimal.lowerAscii, lowerAscii_pointText hw hf]
    rfl
  have hstop : ∀ c, (Decimal.lowerAscii tail).head? = some c → c.isDigit = false ∧ c ≠ '.' := by
    intro c hc
    rcases ht.lower with ⟨h, -⟩ | ⟨rest, h, -⟩
    · rw [h] at hc
      cases hc
    · rw [h] at hc
      cases hc
      decide
  have hvalue : Decimal.digitsValue? (whole ++ fraction) =
      some (Nat.ofDigitChars 10 (whole ++ fraction) 0) :=
    digitsValue?_eq fun c hc => (List.mem_append.mp hc).elim (hw c) (hf c)
  rw [hlow, pointText]
  cases fraction with
  | nil =>
    have htext : whole ++ (if ([] : List Char).isEmpty then [] else '.' :: []) ++
        Decimal.lowerAscii tail = whole ++ Decimal.lowerAscii tail := by simp
    obtain ⟨h1, h2⟩ := takeWhile_digits hw (Decimal.lowerAscii tail) fun c hc => (hstop c hc).1
    rw [htext]
    refine readScaled?_parts hne hvalue h1 h2 ?_ ht
    rw [fractionParts]
    rintro more heq
    exact (hstop '.' (by rw [heq]; rfl)).2 rfl
  | cons c fraction =>
    have htext : whole ++ (if (c :: fraction).isEmpty then [] else '.' :: c :: fraction) ++
        Decimal.lowerAscii tail = whole ++ '.' :: (c :: fraction ++ Decimal.lowerAscii tail) := by simp
    obtain ⟨h1, h2⟩ := takeWhile_digits hw ('.' :: (c :: fraction ++ Decimal.lowerAscii tail)) (by simp)
    obtain ⟨h3, h4⟩ := takeWhile_digits hf (Decimal.lowerAscii tail) fun c hc => (hstop c hc).1
    rw [htext]
    exact readScaled?_parts hne hvalue h1 h2 (by rw [fractionParts, h3, h4]) ht

end Digits

/-! ## Decimal and binary numbers -/

section Signed

variable {whole fraction tail : List Char} {shift : ℤ}

/-- What follows a sign is split off only where there is one. -/
theorem splitSign_signed (s : Bool) {c : Char} {rest : List Char} (h : c.isDigit = true) :
    Decimal.splitSign ((if s then ['-'] else []) ++ c :: rest) = (s, c :: rest) := by
  cases s with
  | true => rfl
  | false =>
    have hm : c ≠ '-' := by
      rintro rfl
      cases h
    have hp : c ≠ '+' := by
      rintro rfl
      cases h
    simp [Decimal.splitSign, hm, hp]

theorem isNumberChar_signed (s : Bool) (hw : ∀ c ∈ whole, c.isDigit = true)
    (hf : ∀ c ∈ fraction, c.isDigit = true) (ht : Tail tail shift) :
    ∀ c ∈ (if s then ['-'] else []) ++ (pointText whole fraction ++ tail),
      isNumberChar c = true := by
  intro c hc
  rcases List.mem_append.mp hc with hc | hc
  · cases s
    · cases hc
    · obtain rfl : c = '-' := by simpa using hc
      rfl
  · rcases List.mem_append.mp hc with hc | hc
    · rcases mem_pointText hc with h | rfl | h
      · exact isNumberChar_digit (hw c h)
      · rfl
      · exact isNumberChar_digit (hf c h)
    · exact ht.isNumberChar c hc

/-- A number begins with a digit, its sign aside. -/
theorem pointText_head (hw : ∀ c ∈ whole, c.isDigit = true) (hne : whole ≠ []) :
    ∃ c rest, pointText whole fraction ++ tail = c :: rest ∧ c.isDigit = true := by
  cases whole with
  | nil => exact absurd rfl hne
  | cons c whole => exact ⟨c, _, rfl, hw c (by simp)⟩

/-- A text that begins with a digit is the name of no number. -/
theorem ne_name_of_digit {c : Char} (h : c.isDigit = true) : c ≠ 'i' ∧ c ≠ 's' ∧ c ≠ 'n' := by
  refine ⟨?_, ?_, ?_⟩ <;> (rintro rfl; cases h)

/-- A number is read as a decimal number, where its exponent is representable. -/
theorem ofChars?_signed (s : Bool) (hw : ∀ c ∈ whole, c.isDigit = true)
    (hf : ∀ c ∈ fraction, c.isDigit = true) (hne : whole ≠ []) (ht : Tail tail shift) :
    Decimal.ofChars? ((if s then ['-'] else []) ++ (pointText whole fraction ++ tail)) =
      if Decimal.inRange (Nat.ofDigitChars 10 (whole ++ fraction) 0) (shift - fraction.length) then
        some (.finite s (Nat.ofDigitChars 10 (whole ++ fraction) 0) (shift - fraction.length))
      else none := by
  have hr := readScaled?_pointText hw hf hne ht
  obtain ⟨c, rest, hb, hc⟩ := @pointText_head whole fraction tail hw hne
  have hlow : Decimal.lowerAscii (pointText whole fraction ++ tail) =
      c :: Decimal.lowerAscii rest := by
    have := digit_bounds hc
    rw [hb, Decimal.lowerAscii, List.map_cons, toLower_of_lt (by omega), Decimal.lowerAscii]
  have hsign : Decimal.lowerAscii ((if s then ['-'] else []) ++ (pointText whole fraction ++ tail)) =
      (if s then ['-'] else []) ++ c :: Decimal.lowerAscii rest := by
    rw [← hlow, Decimal.lowerAscii, List.map_append]
    cases s <;> rfl
  obtain ⟨hi, hs, hn⟩ := ne_name_of_digit hc
  rw [hlow] at hr
  unfold Decimal.ofChars?
  rw [asciiForm_number (isNumberChar_signed s hw hf ht), hsign, splitSign_signed s hc]
  have hinf : ¬ (c :: Decimal.lowerAscii rest = "inf".toList ∨
      c :: Decimal.lowerAscii rest = "infinity".toList) := by simp [hi]
  have hsnan : ("snan".toList).isPrefixOf (c :: Decimal.lowerAscii rest) = false := by
    simp [List.isPrefixOf, hs.symm]
  have hnan : ("nan".toList).isPrefixOf (c :: Decimal.lowerAscii rest) = false := by
    simp [List.isPrefixOf, hn.symm]
  simp only [if_neg hinf, hsnan, hnan, Bool.false_eq_true, if_false, Decimal.readFinite?, hr,
    Option.bind_some]

/-- A number is read as the nearest binary number. -/
theorem readFloat?_signed (s : Bool) (hw : ∀ c ∈ whole, c.isDigit = true)
    (hf : ∀ c ∈ fraction, c.isDigit = true) (hne : whole ≠ []) (ht : Tail tail shift) :
    Coercion.readFloat? ((if s then ['-'] else []) ++ (pointText whole fraction ++ tail)) =
      some (Binary64.ofScaled s (Nat.ofDigitChars 10 (whole ++ fraction) 0)
        (shift - fraction.length)) := by
  have hr := readScaled?_pointText hw hf hne ht
  obtain ⟨c, rest, hb, hc⟩ := @pointText_head whole fraction tail hw hne
  have hlow : Decimal.lowerAscii (c :: rest) = c :: Decimal.lowerAscii rest := by
    have := digit_bounds hc
    rw [Decimal.lowerAscii, List.map_cons, toLower_of_lt (by omega), Decimal.lowerAscii]
  have hname : ∀ {name : String} {d : Char} {more : List Char}, name.toList = d :: more → c ≠ d →
      String.ofList (c :: Decimal.lowerAscii rest) ≠ name := by
    rintro name d more hname hne rfl
    rw [String.toList_ofList] at hname
    exact hne (List.cons.inj hname).1
  obtain ⟨hi, -, hn⟩ := ne_name_of_digit hc
  rw [hb] at hr ⊢
  rw [hlow] at hr
  have hinf : ¬ (String.ofList (c :: Decimal.lowerAscii rest) = "inf" ∨
      String.ofList (c :: Decimal.lowerAscii rest) = "infinity") := by
    rintro (h | h)
    · exact hname (by rfl) hi h
    · exact hname (by rfl) hi h
  have hnan : String.ofList (c :: Decimal.lowerAscii rest) ≠ "nan" := hname (by rfl) hn
  simp only [Coercion.readFloat?, splitSign_signed s hc, hlow, if_neg hinf, if_neg hnan, hr,
    Option.map_some]

end Signed

/-! ## Whole numbers -/

section Whole

variable {ds whole : List Char}

theorem ofDigitChars_lt (h : ∀ c ∈ ds, c.isDigit = true) :
    Nat.ofDigitChars 10 ds 0 < 10 ^ ds.length := by
  induction ds with
  | nil => simp
  | cons c ds ih =>
    have hc := digit_bounds (h c (by simp))
    have hzero : '0'.toNat = 48 := rfl
    have hlt := ih fun d hd => h d (List.mem_cons_of_mem _ hd)
    rw [Nat.ofDigitChars_cons, Nat.ofDigitChars_eq_ofDigitChars_zero, List.length_cons, pow_succ,
      hzero]
    have hle : 10 ^ ds.length * (10 * 0 + (c.toNat - 48)) ≤ 10 ^ ds.length * 9 :=
      Nat.mul_le_mul_left _ (by omega)
    omega

/-- Digits that count for nothing are zeros. -/
theorem eq_zero_of_ofDigitChars (h : ∀ c ∈ ds, c.isDigit = true)
    (hzero : Nat.ofDigitChars 10 ds 0 = 0) : ∀ c ∈ ds, c = '0' := by
  induction ds with
  | nil => simp
  | cons c ds ih =>
    have hc := digit_bounds (h c (by simp))
    have h48 : '0'.toNat = 48 := rfl
    rw [Nat.ofDigitChars_cons, Nat.ofDigitChars_eq_ofDigitChars_zero, Nat.add_eq_zero_iff,
      Nat.mul_eq_zero, h48] at hzero
    have hpow : 10 ^ ds.length ≠ 0 := by positivity
    intro d hd
    rcases List.mem_cons.mp hd with rfl | hd
    · refine Char.toNat_inj.mp ?_
      rw [h48]
      omega
    · exact ih (fun e he => h e (List.mem_cons_of_mem _ he)) hzero.2 d hd

/-- Digits of which none is needless begin with a zero only if they are that zero. -/
theorem eq_nil_of_tight (h : ∀ c ∈ '0' :: ds, c.isDigit = true)
    (ht : ('0' :: ds).length ≤ digitCount (Nat.ofDigitChars 10 ('0' :: ds) 0)) : ds = [] := by
  by_contra hne
  have hlen : 0 < ds.length := List.length_pos_iff.mpr hne
  have hvalue : Nat.ofDigitChars 10 ('0' :: ds) 0 = Nat.ofDigitChars 10 ds 0 := by
    rw [Nat.ofDigitChars_cons]
    rfl
  have hlt := ofDigitChars_lt fun c hc => h c (List.mem_cons_of_mem _ hc)
  rw [hvalue, List.length_cons] at ht
  have := (digitCount_le_iff hlen).mpr hlt
  omega

/-- What follows the digits of a whole number: nothing, or a point and zeros. -/
inductive ZeroFraction : List Char → Prop where
  | none : ZeroFraction []
  | zeros {fraction : List Char} (nonempty : fraction ≠ []) (zero : ∀ c ∈ fraction, c = '0') :
    ZeroFraction ('.' :: fraction)

variable {rest : List Char}

theorem stripZeroFraction_eq {cs : List Char} (h : ∀ c ∈ cs, c ≠ '.') (hr : ZeroFraction rest) :
    Coercion.stripZeroFraction (cs ++ rest) = cs := by
  have hbefore : ∀ c ∈ cs, decide (c ≠ '.') = true := by simpa using h
  cases hr with
  | none =>
    have hdrop : cs.dropWhile (fun c => decide (c ≠ '.')) = [] := List.dropWhile_eq_nil_iff.mpr hbefore
    rw [List.append_nil, Coercion.stripZeroFraction, hdrop]
  | @zeros fraction hne hzero =>
    have hall : fraction.all (fun c => decide (c = '0')) = true := by simpa using hzero
    have htake : (cs ++ '.' :: fraction).takeWhile (fun c => decide (c ≠ '.')) = cs := by
      rw [List.takeWhile_append_of_pos hbefore]
      simp
    have hdrop : (cs ++ '.' :: fraction).dropWhile (fun c => decide (c ≠ '.')) = '.' :: fraction := by
      rw [List.dropWhile_append_of_pos hbefore]
      simp
    simp only [Coercion.stripZeroFraction, htake, hdrop, hall, hne, ne_eq, not_false_eq_true,
      and_self, if_true]

theorem stripUnderscores?_eq {cs : List Char} (h : ∀ c ∈ cs, c ≠ '_') :
    Coercion.stripUnderscores? cs = some cs := by
  have hdouble : ∀ l : List Char, (∀ c ∈ l, c ≠ '_') → Coercion.hasDoubleUnderscore l = false := by
    intro l hl
    induction l with
    | nil => rfl
    | cons c l ih =>
      have hc := hl c (by simp)
      unfold Coercion.hasDoubleUnderscore
      split
      · rename_i heq
        exact absurd (List.cons.inj heq).1 hc
      · rename_i heq
        obtain ⟨-, rfl⟩ := List.cons.inj heq
        exact ih fun d hd => hl d (List.mem_cons_of_mem _ hd)
      · rfl
  have hhead : cs.head? ≠ some '_' := fun hc => h '_' (List.mem_of_head? hc) rfl
  have hlast : cs.getLast? ≠ some '_' := fun hc => h '_' (List.mem_of_getLast? hc) rfl
  have hfilter : cs.filter (· ≠ '_') = cs := List.filter_eq_self.mpr (by simpa using h)
  rw [Coercion.stripUnderscores?, if_neg, hfilter]
  rintro (hc | hc | hc)
  · exact hhead hc
  · exact hlast hc
  · rw [hdouble cs h] at hc
    cases hc

/-- No zero in front of a whole number is needless, so none is dropped. -/
theorem stripLeadingZeros_eq (s : Bool) (hw : ∀ c ∈ whole, c.isDigit = true) (hne : whole ≠ [])
    (ht : whole.length ≤ digitCount (Nat.ofDigitChars 10 whole 0)) (hr : ZeroFraction rest) :
    Coercion.stripLeadingZeros ((if s then ['-'] else []) ++ (whole ++ rest)) =
      some ((if s then ['-'] else []) ++ (whole ++ rest)) := by
  cases s with
  | true => rfl
  | false =>
    cases whole with
    | nil => exact absurd rfl hne
    | cons c ds =>
      by_cases hc : c = '0'
      · subst hc
        obtain rfl := eq_nil_of_tight hw ht
        cases hr with
        | none => rfl
        | zeros hne hzero => simp [Coercion.stripLeadingZeros]
      · have hd := hw c (by simp)
        simp [Coercion.stripLeadingZeros, hd]

/-- A text without its plus sign; there may be no other sign after that. -/
def withoutPlus (cs : List Char) : Option (List Char) :=
  match cs with
  | '+' :: rest => if rest.head? = some '-' then none else some rest
  | cs => some cs

theorem integerOfText_eq (text : String) : Coercion.integerOfText text =
    match ((withoutPlus (Coercion.trimWhiteSpace text.toList)).bind Coercion.stripLeadingZeros).bind
      fun cs => Coercion.stripUnderscores? (Coercion.stripZeroFraction cs) with
    | none => .error .integerText
    | some cs =>
      match Coercion.plainInteger? cs with
      | none => .error .integerText
      | some n => if Coercion.maxIntegerText < cs.length then .error .integerTooLarge else .ok n :=
  rfl

theorem withoutPlus_eq (s : Bool) (hw : ∀ c ∈ whole, c.isDigit = true) (hne : whole ≠ []) :
    withoutPlus ((if s then ['-'] else []) ++ (whole ++ rest)) =
      some ((if s then ['-'] else []) ++ (whole ++ rest)) := by
  cases s with
  | true => rfl
  | false =>
    cases whole with
    | nil => exact absurd rfl hne
    | cons c ds =>
      have hp : c ≠ '+' := by
        rintro rfl
        cases hw '+' (by simp)
      simp [withoutPlus, hp]

theorem plainInteger?_eq (s : Bool) (hw : ∀ c ∈ whole, c.isDigit = true) (hne : whole ≠ []) :
    Coercion.plainInteger? ((if s then ['-'] else []) ++ whole) =
      some (if s then -(Nat.ofDigitChars 10 whole 0 : ℤ) else Nat.ofDigitChars 10 whole 0) := by
  have hd := digitsValue?_eq hw
  cases s with
  | true => simp [Coercion.plainInteger?, hne, hd]
  | false =>
    cases whole with
    | nil => exact absurd rfl hne
    | cons c ds =>
      have hm : c ≠ '-' := by
        rintro rfl
        cases hw '-' (by simp)
      simp [Coercion.plainInteger?, hm, hd]

theorem signed_cases {s : Bool} (hw : ∀ c ∈ whole, c.isDigit = true) {c : Char}
    (hc : c ∈ (if s then ['-'] else []) ++ whole) : c = '-' ∨ c.isDigit = true := by
  rcases List.mem_append.mp hc with hc | hc
  · cases s
    · cases hc
    · exact .inl (by simpa using hc)
  · exact .inr (hw c hc)

theorem isNumberChar_whole {s : Bool} (hw : ∀ c ∈ whole, c.isDigit = true) (hr : ZeroFraction rest)
    {c : Char} (hc : c ∈ (if s then ['-'] else []) ++ (whole ++ rest)) : isNumberChar c = true := by
  rw [← List.append_assoc] at hc
  rcases List.mem_append.mp hc with hc | hc
  · rcases signed_cases hw hc with rfl | hd
    · rfl
    · exact isNumberChar_digit hd
  · cases hr with
    | none => cases hc
    | zeros hnz hzero =>
      rcases List.mem_cons.mp hc with rfl | hc
      · rfl
      · rw [hzero c hc]
        rfl

/-- A whole number of no excessive length is read as it stands. -/
theorem integerOfText_whole (s : Bool) (hw : ∀ c ∈ whole, c.isDigit = true) (hne : whole ≠ [])
    (ht : whole.length ≤ digitCount (Nat.ofDigitChars 10 whole 0))
    (hlen : whole.length < Coercion.maxIntegerText) (hr : ZeroFraction rest) {text : String}
    (htext : text.toList = (if s then ['-'] else []) ++ (whole ++ rest)) :
    Coercion.integerOfText text = .ok (if s then -(Nat.ofDigitChars 10 whole 0 : ℤ)
      else Nat.ofDigitChars 10 whole 0) := by
  have htrim : Coercion.trimWhiteSpace ((if s then ['-'] else []) ++ (whole ++ rest)) =
      (if s then ['-'] else []) ++ (whole ++ rest) :=
    trim_eq fun c hc => isWhiteSpace_number (isNumberChar_whole hw hr hc)
  have hstrip : Coercion.stripZeroFraction ((if s then ['-'] else []) ++ (whole ++ rest)) =
      (if s then ['-'] else []) ++ whole := by
    rw [← List.append_assoc]
    refine stripZeroFraction_eq ?_ hr
    rintro c hc rfl
    rcases signed_cases hw hc with h | h <;> cases h
  have hplain : Coercion.stripUnderscores? ((if s then ['-'] else []) ++ whole) =
      some ((if s then ['-'] else []) ++ whole) := by
    refine stripUnderscores?_eq ?_
    rintro c hc rfl
    rcases signed_cases hw hc with h | h <;> cases h
  have hshort : ¬ Coercion.maxIntegerText < ((if s then ['-'] else []) ++ whole).length := by
    cases s <;> simp <;> omega
  simp only [integerOfText_eq, htext, htrim, withoutPlus_eq s hw hne, Option.bind_some,
    stripLeadingZeros_eq s hw hne ht hr, hstrip, hplain, plainInteger?_eq s hw hne, if_neg hshort]

end Whole

end EntityStore
