import EntityStore.Json.Reader
import EntityStore.Json.Writer
import EntityStore.Proofs.Numerals

/-! # Texts and numbers in JSON

A text is written with escapes that are read back, characters beyond the first plane as two code
units. A number is read back to the last digit or the last bit, unless it is a whole number of too
many digits.
-/
namespace EntityStore

namespace Json

/-! ## Escapes -/

section Escapes

theorem hexDigit?_digitChar : ∀ d < 16, hexDigit? (Nat.digitChar d) = some d := by decide

theorem toList_hex_succ {width : ℕ} (n : ℕ) (hw : 0 < width) :
    (Quoted.hex (width + 1) n).toList =
      (Quoted.hex width (n / 16)).toList ++ [Nat.digitChar (n % 16)] := by
  simp only [Quoted.hex, String.toList_ofList]
  by_cases hn : n < 16
  · obtain ⟨zeros, rfl⟩ : ∃ zeros, width = zeros + 1 := ⟨width - 1, by omega⟩
    have hdigit : Nat.toDigits 16 n = [Nat.digitChar n] := Nat.toDigits_of_lt_base hn
    have hzero : Nat.toDigits 16 0 = ['0'] := rfl
    rw [Nat.div_eq_of_lt hn, Nat.mod_eq_of_lt hn, hdigit, hzero]
    simp [List.replicate_succ']
  · have hdigits : Nat.toDigits 16 n = Nat.toDigits 16 (n / 16) ++ [Nat.digitChar (n % 16)] := by
      rw [Nat.toDigits_eq_if (by decide), if_neg hn]
    rw [hdigits, List.length_append, List.length_singleton, Nat.add_sub_add_right,
      List.append_assoc]

/-- The digits of a code unit. -/
def unitDigits (n : ℕ) : List Char :=
  [n / 4096, n / 256 % 16, n / 16 % 16, n % 16].map Nat.digitChar

theorem toList_hex {n : ℕ} (h : n < 65536) : (Quoted.hex 4 n).toList = unitDigits n := by
  have hone : (Quoted.hex 1 (n / 16 / 16 / 16)).toList = [Nat.digitChar (n / 16 / 16 / 16)] := by
    have hdigit : Nat.toDigits 16 (n / 16 / 16 / 16) = [Nat.digitChar (n / 16 / 16 / 16)] :=
      Nat.toDigits_of_lt_base (by omega)
    rw [Quoted.hex, String.toList_ofList, hdigit]
    rfl
  rw [toList_hex_succ _ (by decide), toList_hex_succ _ (by decide), toList_hex_succ _ (by decide),
    hone]
  simp [unitDigits, Nat.div_div_eq_div_mul]

/-- Four digits are read where something follows them. -/
theorem codeUnit?_unitDigits {n : ℕ} (h : n < 65536) {rest : List Char} (hrest : rest ≠ []) :
    codeUnit? (unitDigits n ++ rest) = some (n, rest) := by
  cases rest with
  | nil => exact absurd rfl hrest
  | cons c rest =>
    have hvalue : ((n / 4096 * 16 + n / 256 % 16) * 16 + n / 16 % 16) * 16 + n % 16 = n := by omega
    simp only [unitDigits, List.map_cons, List.map_nil, List.cons_append, List.nil_append,
      codeUnit?,
      hexDigit?_digitChar _ (show n / 4096 < 16 by omega),
      hexDigit?_digitChar _ (show n / 256 % 16 < 16 by omega),
      hexDigit?_digitChar _ (show n / 16 % 16 < 16 by omega),
      hexDigit?_digitChar _ (show n % 16 < 16 by omega), Option.bind_eq_bind, Option.bind_some,
      hvalue]

/-- No character is a code unit of a pair. -/
theorem not_unit (c : Char) : isHighUnit c.toNat = false ∧ isLowUnit c.toNat = false := by
  have hvalid : c.toNat < 0xd800 ∨ 0xdfff < c.toNat ∧ c.toNat < 0x110000 := c.valid
  simp only [isHighUnit, isLowUnit, Bool.and_eq_false_iff, decide_eq_false_iff_not]
  omega

theorem codeEscape_unit {c : Char} (h : c.toNat < 65536) {rest : List Char} (hrest : rest ≠ []) :
    codeEscape ('u' :: (unitDigits c.toNat ++ rest)) = .ok (c, rest) := by
  obtain ⟨hhigh, hlow⟩ := not_unit c
  simp [codeEscape, codeUnit?_unitDigits h hrest, hhigh, hlow]

theorem codeEscape_pair {high low : ℕ} {c : Char} (hhigh : isHighUnit high = true)
    (hlow : isLowUnit low = true) (hjoin : joinUnits high low = c.toNat) {rest : List Char}
    (hrest : rest ≠ []) :
    codeEscape ('u' :: (unitDigits high ++ '\\' :: 'u' :: (unitDigits low ++ rest))) =
      .ok (c, rest) := by
  have hunits : high < 65536 ∧ low < 65536 := by
    simp only [isHighUnit, isLowUnit, Bool.and_eq_true, decide_eq_true_eq] at hhigh hlow
    omega
  have hlength : ¬ (unitDigits low ++ rest).length ≤ 4 := by
    have hfour : (unitDigits low).length = 4 := rfl
    have := List.length_pos_iff.mpr hrest
    rw [List.length_append]
    omega
  have hfirst := codeUnit?_unitDigits hunits.1
    (List.cons_ne_nil '\\' ('u' :: (unitDigits low ++ rest)))
  simp only [codeEscape, List.tail_cons, hfirst, hhigh, if_true, if_neg hlength,
    codeUnit?_unitDigits hunits.2 hrest, hlow, hjoin, Char.ofNat_toNat]

/-- Beyond the first plane a character is two code units of a pair. -/
theorem units_of_char {c : Char} (h : 65536 ≤ c.toNat) :
    isHighUnit (0xd800 + (c.toNat - 65536) / 1024) = true ∧
    isLowUnit (0xdc00 + (c.toNat - 65536) % 1024) = true ∧
    joinUnits (0xd800 + (c.toNat - 65536) / 1024) (0xdc00 + (c.toNat - 65536) % 1024) =
      c.toNat := by
  have hvalid : c.toNat < 0xd800 ∨ 0xdfff < c.toNat ∧ c.toNat < 0x110000 := c.valid
  refine ⟨?_, ?_, ?_⟩
  · simp only [isHighUnit, Bool.and_eq_true, decide_eq_true_eq]
    omega
  · simp only [isLowUnit, Bool.and_eq_true, decide_eq_true_eq]
    omega
  · unfold joinUnits
    omega

end Escapes

/-! ## Texts -/

section Texts

variable {start rest soFar : List Char} {steps : ℕ}

theorem toList_unitEscape {n : ℕ} (h : n < 65536) :
    (unitEscape n).toList = '\\' :: 'u' :: unitDigits n := by
  rw [unitEscape, String.toList_append, toList_hex h]
  rfl

theorem textBody_code {c : Char} {text : List Char} (h : codeEscape ('u' :: text) = .ok (c, rest)) :
    textBody start (steps + 1) soFar ('\\' :: 'u' :: text) =
      textBody start steps (c :: soFar) rest := by
  simp only [textBody, h]

/-- Each character is read back from its text, inside of a text. -/
theorem textBody_charText (c : Char) (hrest : rest ≠ []) :
    textBody start (steps + 1) soFar ((charText c).toList ++ rest) =
      textBody start steps (c :: soFar) rest := by
  unfold charText
  split
  · rfl
  · rfl
  · rfl
  · rfl
  · rfl
  next hquote hslash _ _ _ =>
    dsimp only
    split_ifs with hback hfeed hplain hunit
    · obtain rfl : c = '\x08' := Char.toNat_inj.mp hback
      rfl
    · obtain rfl : c = '\x0c' := Char.toNat_inj.mp hfeed
      rfl
    · have hcontrol : ¬ c.toNat < 32 := by omega
      rw [String.toList_singleton, List.singleton_append, textBody]
      · rw [if_neg hcontrol]
      · exact hquote
      · exact hslash
    · rw [toList_unitEscape hunit]
      exact textBody_code (codeEscape_unit hunit hrest)
    · obtain ⟨hhigh, hlow, hjoin⟩ := units_of_char (not_lt.mp hunit)
      have hunits : 0xd800 + (c.toNat - 65536) / 1024 < 65536 ∧
          0xdc00 + (c.toNat - 65536) % 1024 < 65536 := by
        simp only [isHighUnit, Bool.and_eq_true, decide_eq_true_eq] at hhigh
        omega
      rw [String.toList_append, toList_unitEscape hunits.1, toList_unitEscape hunits.2]
      simp only [List.cons_append, List.append_assoc]
      exact textBody_code (codeEscape_pair hhigh hlow hjoin hrest)

theorem textBody_join (cs : List Char) (hsteps : cs.length < steps) :
    textBody start steps soFar ((String.join (cs.map charText)).toList ++ '"' :: rest) =
      .ok (cs.reverse ++ soFar, rest) := by
  obtain ⟨steps, rfl⟩ : ∃ n, steps = n + 1 := ⟨steps - 1, by omega⟩
  -- a character takes one step, however many its escape has
  induction cs generalizing steps soFar with
  | nil => rfl
  | cons c cs ih =>
    obtain ⟨steps, rfl⟩ : ∃ n, steps = n + 1 := ⟨steps - 1, by simp at hsteps; omega⟩
    rw [List.map_cons, String.join_cons, String.toList_append, List.append_assoc,
      textBody_charText c (by simp), ih steps (by simpa using hsteps)]
    simp

theorem unitEscape_ne_nil (n : ℕ) : (unitEscape n).toList ≠ [] := by simp [unitEscape]

theorem charText_ne_nil (c : Char) : (charText c).toList ≠ [] := by
  unfold charText
  split <;> try decide
  next =>
    dsimp only
    split_ifs
    · decide
    · decide
    · simp
    · exact unitEscape_ne_nil _
    · rw [String.toList_append]
      exact List.append_ne_nil_of_left_ne_nil (unitEscape_ne_nil _) _

theorem length_le_join (cs : List Char) :
    cs.length ≤ (String.join (cs.map charText)).toList.length := by
  induction cs with
  | nil => exact Nat.zero_le _
  | cons c cs ih =>
    have := List.length_pos_iff.mpr (charText_ne_nil c)
    rw [List.map_cons, String.join_cons, String.toList_append, List.length_append, List.length_cons]
    omega

/-- A text is read back from its literal. -/
theorem readText_textLiteral (s : String) (rest : List Char) :
    readText ((textLiteral s).toList ++ rest) = .ok (s, rest) := by
  have htext : (textLiteral s).toList ++ rest =
      '"' :: ((String.join (s.toList.map charText)).toList ++ '"' :: rest) := by
    simp [textLiteral]
  have hsteps : s.toList.length < ('"' :: ((String.join (s.toList.map charText)).toList ++
      '"' :: rest)).length + 1 := by
    have := length_le_join s.toList
    simp only [List.length_cons, List.length_append]
    omega
  rw [htext, readText, List.tail_cons, textBody_join _ hsteps]
  simp

end Texts

/-! ## Numbers -/

section Numbers

variable {whole fraction tail rest : List Char} {shift : ℤ}

/-- What may follow a value: its end, a comma or a line break. -/
def Closes (rest : List Char) : Prop := ∀ c, rest.head? = some c → c = ',' ∨ c = '\n'

theorem Closes.head (h : Closes rest) {c : Char} (hc : rest.head? = some c) :
    c.isDigit = false ∧ c ≠ '.' ∧ c ≠ 'e' ∧ c ≠ 'E' := by
  rcases h c hc with rfl | rfl <;> decide

theorem exponentPart_closes (h : Closes rest) : exponentPart rest = (none, rest) := by
  cases rest with
  | nil => rfl
  | cons c rest =>
    obtain ⟨-, -, he, hE⟩ := h.head rfl
    simp [exponentPart, he, hE]

/-- The end of a number is read with the power of ten that it gives. -/
theorem exponentPart_tail (ht : Tail tail shift) (h : Closes rest) :
    exponentPart (tail ++ rest) = (if tail.isEmpty then none else some shift, rest) := by
  cases ht with
  | none => exact exponentPart_closes h
  | @exponent mark hmark negative digits hd hne =>
    obtain ⟨h1, h2⟩ := takeWhile_digits hd rest fun c hc => (h.head hc).1
    have hvalue := digitsValue?_eq hd
    rcases hmark with rfl | rfl <;> cases negative <;>
      simp [exponentPart, Decimal.splitSign, h1, h2, hvalue, hne]

theorem tail_stops (ht : Tail tail shift) (h : Closes rest) {c : Char}
    (hc : (tail ++ rest).head? = some c) : c.isDigit = false ∧ c ≠ '.' := by
  cases ht with
  | none =>
    obtain ⟨hd, hp, -⟩ := h.head hc
    exact ⟨hd, hp⟩
  | exponent hmark negative hd hne =>
    obtain rfl := Option.some.inj hc
    rcases hmark with rfl | rfl <;> decide

theorem fractionPart_fraction (hf : ∀ c ∈ fraction, c.isDigit = true)
    (hstop : ∀ c, rest.head? = some c → c.isDigit = false ∧ c ≠ '.') :
    fractionPart ((if fraction.isEmpty then [] else '.' :: fraction) ++ rest) =
      (if fraction.isEmpty then none else some fraction, rest) := by
  cases fraction with
  | nil =>
    cases rest with
    | nil => rfl
    | cons c rest =>
      have hp := (hstop c rfl).2
      simp only [List.isEmpty_nil, if_true, List.nil_append]
      rw [fractionPart]
      rintro more heq
      exact hp (List.cons.inj heq).1
  | cons c fraction =>
    obtain ⟨h1, h2⟩ := takeWhile_digits hf rest fun d hd => (hstop d hd).1
    have htext : (if (c :: fraction).isEmpty then [] else '.' :: c :: fraction) ++ rest =
        '.' :: (c :: fraction ++ rest) := by simp
    rw [htext, fractionPart, h1, h2]
    rfl

/-- What is read from the parts of a number. -/
def numberOf (negative : Bool) (digits : List Char) (fraction : Option (List Char))
    (exponent : Option ℤ) (rest : List Char) : Step Value :=
  match fraction, exponent with
  | none, none =>
    if maxDigits < digits.length then .error (.numberTooLong digits.length)
    else
      let n := (Decimal.digitsValue? digits).getD 0
      .ok (.int (if negative then -(n : ℤ) else n), rest)
  | _, _ =>
    let all := digits ++ fraction.getD []
    let coeff := (Decimal.digitsValue? all).getD 0
    let exp := exponent.getD 0 - (fraction.getD []).length
    .ok (.float (Binary64.ofScaled negative coeff exp), rest)

theorem readNumber?_parts (s : Bool) {c : Char} {after digits more : List Char}
    (hc : c.isDigit = true)
    (hdigits : (if c = '0' then ['0'] else (c :: after).takeWhile Char.isDigit) = digits)
    (hmore : (if c = '0' then after else (c :: after).dropWhile Char.isDigit) = more) :
    readNumber? ((if s then ['-'] else []) ++ c :: after) =
      some (numberOf s digits (fractionPart more).1 (exponentPart (fractionPart more).2).1
        (exponentPart (fractionPart more).2).2) := by
  have hm : c ≠ '-' := by
    rintro rfl
    cases hc
  unfold readNumber?
  split
  rename_i negative body hsplit
  obtain ⟨rfl, rfl⟩ : negative = s ∧ body = c :: after := by
    cases s with
    | true =>
      obtain ⟨hs, hb⟩ := Prod.mk.inj hsplit
      exact ⟨hs.symm, hb.symm⟩
    | false =>
      simp only [Bool.false_eq_true, if_false, List.nil_append] at hsplit
      split at hsplit
      next heq => exact absurd (List.cons.inj heq).1 hm
      next =>
        obtain ⟨hs, hb⟩ := Prod.mk.inj hsplit
        exact ⟨hs.symm, hb.symm⟩
  simp only [hc, not_true_eq_false, if_false, hdigits, hmore]
  rfl

/-- Digits of which none is needless are read to their end, also where a zero is in front. -/
theorem digits_of_tight {c : Char} {ds more : List Char} (hw : ∀ d ∈ c :: ds, d.isDigit = true)
    (htight : (c :: ds).length ≤ digitCount (Nat.ofDigitChars 10 (c :: ds) 0))
    (hstop : ∀ d, more.head? = some d → d.isDigit = false) :
    (if c = '0' then ['0'] else (c :: (ds ++ more)).takeWhile Char.isDigit) = c :: ds ∧
    (if c = '0' then ds ++ more else (c :: (ds ++ more)).dropWhile Char.isDigit) = more := by
  split_ifs with hzero
  · subst hzero
    have hds : ds = [] := eq_nil_of_tight hw htight
    exact ⟨by rw [hds], by rw [hds, List.nil_append]⟩
  · exact takeWhile_digits hw more hstop

/-- A number is read from its sign, its digits, its fraction and its end. -/
theorem readNumber?_pointText (s : Bool) (hw : ∀ c ∈ whole, c.isDigit = true)
    (hf : ∀ c ∈ fraction, c.isDigit = true) (hne : whole ≠ [])
    (htight : whole.length ≤ digitCount (Nat.ofDigitChars 10 whole 0)) (ht : Tail tail shift)
    (h : Closes rest) :
    readNumber? ((if s then ['-'] else []) ++ (pointText whole fraction ++ tail) ++ rest) =
      some (numberOf s whole (if fraction.isEmpty then none else some fraction)
        (if tail.isEmpty then none else some shift) rest) := by
  set more := (if fraction.isEmpty then [] else '.' :: fraction) ++ (tail ++ rest) with hmore
  have hfraction : fractionPart more =
      (if fraction.isEmpty then none else some fraction, tail ++ rest) :=
    fractionPart_fraction hf fun c => tail_stops ht h
  have hstop : ∀ c, more.head? = some c → c.isDigit = false := by
    intro c hc
    cases fraction with
    | nil => exact (tail_stops ht h hc).1
    | cons d fraction =>
      obtain rfl := Option.some.inj hc
      rfl
  cases whole with
  | nil => exact absurd rfl hne
  | cons c ds =>
    have htext : (if s then ['-'] else []) ++ (pointText (c :: ds) fraction ++ tail) ++ rest =
        (if s then ['-'] else []) ++ c :: (ds ++ more) := by
      simp [pointText, hmore]
    obtain ⟨hdigits, hrest⟩ := digits_of_tight hw htight hstop
    rw [htext, readNumber?_parts s (hw c (by simp)) hdigits hrest, hfraction,
      exponentPart_tail ht h]

/-- A whole number is read back from its text, unless it has too many digits. -/
theorem readNumber?_toString {n : ℤ} (hn : digitCount n.natAbs ≤ maxDigits) (h : Closes rest) :
    readNumber? ((toString n).toList ++ rest) = some (.ok (.int n, rest)) := by
  have hw : ∀ c ∈ Nat.toDigits 10 n.natAbs, c.isDigit = true := fun c => isDigit_toDigits
  have htight : (Nat.toDigits 10 n.natAbs).length ≤
      digitCount (Nat.ofDigitChars 10 (Nat.toDigits 10 n.natAbs) 0) := by
    rw [Nat.ofDigitChars_ten_toDigits, length_toDigits]
  have hnil : ∀ c ∈ ([] : List Char), c.isDigit = true := by simp
  have hread := readNumber?_pointText (decide (n < 0)) hw hnil Nat.toDigits_ne_nil htight .none h
  have hlength : ¬ maxDigits < (Nat.toDigits 10 n.natAbs).length := not_lt.mpr hn
  have hvalue : (if decide (n < 0) then -(n.natAbs : ℤ) else n.natAbs) = n := by
    simp only [decide_eq_true_eq]
    omega
  rw [pointText, List.isEmpty_nil, if_pos rfl, List.append_nil, List.append_nil] at hread
  rw [toList_toString, hread, if_pos rfl, if_pos rfl, numberOf, if_neg hlength, digitsValue?_eq hw,
    Option.getD_some, Nat.ofDigitChars_ten_toDigits]
  simp only [hvalue]

theorem numberOf_float (s : Bool) (hw : ∀ c ∈ whole, c.isDigit = true)
    (hf : ∀ c ∈ fraction, c.isDigit = true) (ht : Tail tail shift)
    (hpoint : fraction ≠ [] ∨ tail ≠ []) :
    numberOf s whole (if fraction.isEmpty then none else some fraction)
        (if tail.isEmpty then none else some shift) rest =
      .ok (.float (Binary64.ofScaled s (Nat.ofDigitChars 10 (whole ++ fraction) 0)
        (shift - fraction.length)), rest) := by
  have hvalue : Decimal.digitsValue? (whole ++ fraction) =
      some (Nat.ofDigitChars 10 (whole ++ fraction) 0) :=
    digitsValue?_eq fun c hc => (List.mem_append.mp hc).elim (hw c) (hf c)
  cases fraction with
  | nil =>
    cases ht with
    | none => simp at hpoint
    | exponent hmark negative hd hne =>
      rw [List.append_nil] at hvalue
      simp [numberOf, hvalue]
  | cons d fraction =>
    cases ht with
    | none => simp [numberOf, hvalue]
    | exponent hmark negative hd hne => simp [numberOf, hvalue]

/-- A number with a point or an exponent is read as the nearest binary number. -/
theorem readNumber?_spelled {cs : List Char} {s : Bool} {c : ℕ} {x : ℤ} (hs : Spells cs s c x)
    (hpoint : ∃ d ∈ cs, d = '.' ∨ d = 'e') (h : Closes rest) :
    readNumber? (cs ++ rest) = some (.ok (.float (Binary64.ofScaled s c x), rest)) := by
  cases hs with
  | @intro _ whole fraction tail shift hw hf hne htight ht =>
    have hparts : fraction ≠ [] ∨ tail ≠ [] := by
      by_contra hnone
      obtain ⟨rfl, rfl⟩ : fraction = [] ∧ tail = [] := by simpa using hnone
      obtain ⟨d, hd, hmark⟩ := hpoint
      have hdigits : d = '-' ∨ d.isDigit = true := by
        refine signed_cases (s := s) hw ?_
        simpa [pointText] using hd
      rcases hmark with rfl | rfl <;> rcases hdigits with hd | hd <;> cases hd
    rw [readNumber?_pointText s hw hf hne htight ht h, numberOf_float s hw hf ht hparts]

/-- A finite binary number is written with a point or an exponent. -/
theorem toText_point (s : Bool) {m : ℕ} {e : ℤ} (hf : Binary64.isNormalForm m e = true) :
    ∃ d ∈ (Binary64.toText (.finite s m e hf)).toList, d = '.' ∨ d = 'e' := by
  rw [Binary64.toText_toList]
  generalize (if s then ['-'] else []) = sign
  split_ifs with hrange hlong
  · exact ⟨'.', by simp, .inl rfl⟩
  · refine ⟨'.', List.mem_append_right _ ?_, .inl rfl⟩
    rw [pointedDigits, length_toDigits]
    split_ifs <;> simp
  · exact ⟨'e', by simp, .inr rfl⟩

/-- A finite binary number is read back from its text, to the last bit. -/
theorem readNumber?_toText {x : Binary64} (hx : x.isFinite = true) (h : Closes rest) :
    readNumber? (x.toText.toList ++ rest) = some (.ok (.float x, rest)) := by
  cases x with
  | infinity s => cases hx
  | nan => cases hx
  | finite s m e hf =>
    obtain ⟨c, k, hspells, -⟩ := Binary64.toText_spells s hf
    have hvalue := Except.ok.inj (hspells.floatOfText.symm.trans (Coercion.floatOfText_toText hx))
    rw [readNumber?_spelled hspells (toText_point s hf) h, hvalue]

end Numbers

end Json

end EntityStore
