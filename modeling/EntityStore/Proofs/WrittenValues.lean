import EntityStore.Proofs.Filters
import EntityStore.Proofs.IsoText
import EntityStore.Proofs.Numerals

/-! # Values in writing

A value has a text that stands for it where only texts can be given. The rules of a field take the
text of a value that they take, and make the same of it. Only a number in a whole-number column has
to be written without an exponent.
-/
namespace EntityStore

/-! ## Texts of values -/

/-- The text that stands for a value in an argument, for the values that have one. -/
def Value.argument? : Value → Option String
  | .text s | .uuid s => some s
  | .int n => some (toString n)
  | .decimal d => some d.toText
  | .float x => some x.toText
  | .bool b => some (if b then "true" else "false")
  | .date d => some (Iso.dateText d)
  | .timestamp t => if t.offset = some 0 then some (Iso.timestampText "T" t) else none
  | _ => none

/-- Whether a decimal number can hold the value, where it is a whole or a decimal number. -/
def Value.inDecimalRange : Value → Bool
  | .int n => Decimal.inRange n.natAbs 0
  | .decimal (.finite _ c x) => Decimal.inRange c x
  | _ => true

section Texts

variable {v : Value} {text : String}

theorem Value.argument?_text {s : String} (h : v = .text s) (ht : v.argument? = some text) :
    .text text = v := by
  subst h
  cases ht
  rfl

theorem Decimal.toText_ne_null (d : Decimal) : d.toText ≠ "null" := by
  intro h
  cases d with
  | infinity s => cases s <;> exact absurd h (by decide)
  | nan q s payload =>
    have hhead := congrArg (fun t : String => t.toList.head?) h
    cases q <;> cases s <;> simp [toText] at hhead
  | finite s c x =>
    have hread := Coercion.floatOfText_decimal s c x
    rw [h] at hread
    cases hread

theorem Binary64.toText_ne_null (x : Binary64) : x.toText ≠ "null" := by
  intro h
  cases x with
  | infinity s => cases s <;> exact absurd h (by decide)
  | nan => exact absurd h (by decide)
  | finite s m e hf =>
    have hread := Coercion.floatOfText_toText (x := .finite s m e hf) rfl
    rw [h] at hread
    cases hread

/-- No value but a text is written as the word that stands for null. -/
theorem Value.argument?_ne_null (ht : v.argument? = some text) (hw : v.idText? ≠ some "null") :
    text ≠ "null" := by
  rintro rfl
  cases v with
  | text s => exact hw ht
  | uuid s => exact hw ht
  | int n =>
    have hread := Coercion.floatOfText_toString n
    rw [Option.some.inj ht] at hread
    cases hread
  | decimal d => exact d.toText_ne_null (Option.some.inj ht)
  | float x => exact x.toText_ne_null (Option.some.inj ht)
  | bool b => cases b <;> exact absurd ht (by decide)
  | date d =>
    have hread := Iso.date?_dateText d
    have hnone : Iso.date? "null" = none := by decide +kernel
    rw [Option.some.inj ht, hnone] at hread
    cases hread
  | timestamp t =>
    simp only [argument?] at ht
    split at ht
    · rename_i hutc
      have hread := Iso.timestamp?_timestampText hutc
      have hnone : Iso.timestamp? "null" = none := by decide +kernel
      rw [Option.some.inj ht, hnone] at hread
      cases hread
    · cases ht
  | null => cases ht
  | bytes bs => cases ht
  | list items => cases ht
  | mapping entries => cases ht

/-- The moment that a value is or spells is the one that its text spells. -/
theorem Value.moment?_argument {t : Timestamp} (h : v.moment? = some t)
    (ht : v.argument? = some text) : Value.moment? (.text text) = some t := by
  cases v with
  | text s =>
    rw [← Option.some.inj ht]
    exact h
  | timestamp u =>
    rw [← Option.some.inj h]
    simp only [argument?] at ht
    split at ht
    · rename_i hutc
      rw [← Option.some.inj ht]
      exact Iso.timestamp?_timestampText hutc
    · cases ht
  | _ => cases h

end Texts

/-! ## Rules on texts -/

section Rules

variable {f : Field} {v x : Value} {text : String}

theorem Ruled.ofRefusal_ok {α : Type} {r : Except Refusal α} {a : α} :
    Ruled.ofRefusal r = .ok a ↔ r = .ok a := by
  cases r <;> simp [Ruled.ofRefusal, Ruled.refuse]

/-- A number that a whole-number column takes is read there from its text. -/
theorem Coercion.integer_argument {n : ℤ} (hb : Rule.rejectBoolean v = .ok ())
    (h : integer v = .ok n) (hn : (n.natAbs : ℤ) ≤ signedBound 64) (ht : v.argument? = some text)
    (hplain : hasExponent text = false) : integer (.text text) = .ok n := by
  cases v with
  | int m =>
    cases h
    cases ht
    exact integerOfText_toString hn
  | float y =>
    cases ht
    exact integerOfText_toText h hplain
  | decimal d =>
    cases ht
    cases d with
    | finite s c x =>
      obtain ⟨m, hm⟩ : ∃ m, (Decimal.finite s c x).truncate? = some m := ⟨_, rfl⟩
      simp only [integer, hm] at h
      split at h
      · rename_i hi
        cases h
        exact integerOfText_decimal hm hi hplain hn
      · cases h
    | infinity s => cases h
    | nan q s payload => cases h
  | text s =>
    cases ht
    exact h
  | bool b => cases hb
  | _ => first | cases h | cases ht

/-- A number that a binary column takes is read there from its text. -/
theorem Coercion.float_argument {y : Binary64} (hb : Rule.rejectBoolean v = .ok ())
    (h : float v = .ok y) (hy : y.isFinite = true) (ht : v.argument? = some text) :
    float (.text text) = .ok y := by
  cases v with
  | int n =>
    cases ht
    simp only [float] at h
    split at h
    · cases h
    · cases h
      exact floatOfText_toString n
  | float z =>
    cases h
    cases ht
    exact floatOfText_toText hy
  | decimal d =>
    cases ht
    cases d with
    | finite s c x =>
      cases h
      exact floatOfText_decimal s c x
    | infinity s =>
      cases h
      cases hy
    | nan q s payload =>
      cases q with
      | true => cases h
      | false =>
        cases h
        cases hy
  | text s =>
    cases ht
    exact h
  | bool b => cases hb
  | _ => first | cases h | cases ht

/-- A number that an exact column takes is read there from its text. -/
theorem Rule.readDecimal_argument {d : Decimal} (h : readDecimal v = .ok d)
    (hd : d.isFinite = true) (hr : v.inDecimalRange = true) (ht : v.argument? = some text) :
    readDecimal (.text text) = .ok d := by
  cases v with
  | int n =>
    cases h
    cases ht
    simp only [readDecimal, readDecimal.ofText, Decimal.ofText?_toString hr]
  | decimal e =>
    cases h
    cases ht
    cases d with
    | finite s c x => simp only [readDecimal, readDecimal.ofText, Decimal.ofText?_toText hr]
    | infinity s => cases hd
    | nan q s payload => cases hd
  | float y =>
    cases ht
    exact h
  | text s =>
    cases ht
    exact h
  | _ => cases h

/-- A whole-number column takes numbers of at most 64 bits. -/
theorem Field.natAbs_le_word (hs : f.Sound) (hk : f.kind = .integer) {n : ℤ}
    (hr : Rule.checkRange f n = .ok ()) : (n.natAbs : ℤ) ≤ signedBound 64 := by
  have hsmall : signedBound 16 = 32768 := rfl
  have hmedium : signedBound 32 = 2147483648 := rfl
  have hlarge : signedBound 64 = 9223372036854775808 := rfl
  rcases hs.integer_storage hk with ha | ha | ha <;>
    simp only [Rule.checkRange, integerRange?, ha, StorageType.integerRange?, Ruled.require_ok,
      Bool.and_eq_true, decide_eq_true_eq] at hr <;>
    omega

namespace Rule

theorem integer_argument (hs : f.Sound) (hk : f.kind = .integer) (h : integer f v = .ok x)
    (ht : v.argument? = some text) (hplain : hasExponent text = false) :
    integer f (.text text) = .ok x := by
  obtain ⟨⟨⟩, hb, h⟩ := bind_ok.mp h
  obtain ⟨n, hn, h⟩ := bind_ok.mp h
  obtain ⟨⟨⟩, hbounds, h⟩ := bind_ok.mp h
  obtain ⟨⟨⟩, hr, h⟩ := bind_ok.mp h
  have hread := Coercion.integer_argument hb (Ruled.ofRefusal_ok.mp hn)
    (Field.natAbs_le_word hs hk hr) ht hplain
  exact bind_ok.mpr ⟨(), rfl, bind_ok.mpr ⟨n, Ruled.ofRefusal_ok.mpr hread,
    bind_ok.mpr ⟨(), hbounds, bind_ok.mpr ⟨(), hr, h⟩⟩⟩⟩

theorem binary_argument (hb : rejectBoolean v = .ok ()) (h : binary f v = .ok x)
    (ht : v.argument? = some text) : binary f (.text text) = .ok x := by
  obtain ⟨y, hy, h⟩ := bind_ok.mp h
  obtain ⟨⟨⟩, hfinite, h⟩ := bind_ok.mp h
  have hread := Coercion.float_argument hb (Ruled.ofRefusal_ok.mp hy)
    (Ruled.require_ok.mp hfinite) ht
  exact bind_ok.mpr ⟨y, Ruled.ofRefusal_ok.mpr hread, bind_ok.mpr ⟨(), hfinite, h⟩⟩

theorem exact_argument (h : exact f v = .ok x) (hr : v.inDecimalRange = true)
    (ht : v.argument? = some text) : exact f (.text text) = .ok x := by
  obtain ⟨d, hd, h⟩ := bind_ok.mp h
  obtain ⟨⟨⟩, hfinite, h⟩ := bind_ok.mp h
  have hread := readDecimal_argument hd (Ruled.require_ok.mp hfinite) hr ht
  exact bind_ok.mpr ⟨d, hread, bind_ok.mpr ⟨(), hfinite, h⟩⟩

theorem date_argument (h : date v = .ok x) (ht : v.argument? = some text) :
    date (.text text) = .ok x := by
  cases v with
  | date d =>
    rw [← Option.some.inj ht, ← h]
    simp only [date, Iso.date?_dateText]
  | text s =>
    rw [← Option.some.inj ht]
    exact h
  | _ => cases h

theorem timestamp_argument (h : timestamp v = .ok x) (ht : v.argument? = some text) :
    timestamp (.text text) = .ok x := by
  obtain ⟨t, hread, h⟩ := bind_ok.mp h
  have hmoment : v.moment? = some t := by
    cases v with
    | timestamp u =>
      cases hread
      rfl
    | text s =>
      simp only [readTimestamp] at hread
      split at hread
      · rename_i hs
        cases hread
        exact hs
      · cases hread
    | _ => cases hread
  have hspelled : Iso.timestamp? text = some t := Value.moment?_argument hmoment ht
  refine bind_ok.mpr ⟨t, ?_, h⟩
  simp only [readTimestamp, hspelled]

/-- What the rules of a kind take, flags aside, they take in writing. -/
theorem builtIn_argument (hs : f.Sound) (h : builtIn f v = .ok x) (hk : f.kind ≠ .boolean)
    (hr : v.inDecimalRange = true) (hplain : f.kind = .integer → hasExponent text = false)
    (ht : v.argument? = some text) : builtIn f (.text text) = .ok x := by
  unfold builtIn at h ⊢
  cases hkind : f.kind <;> rw [hkind] at h
  case shortText =>
    obtain ⟨s, hv, -⟩ := text_ok h
    rwa [Value.argument?_text hv ht]
  case longText =>
    obtain ⟨s, hv, -⟩ := text_ok h
    rwa [Value.argument?_text hv ht]
  case fileReference =>
    obtain ⟨s, hv, -⟩ := fileReference_ok h
    rwa [Value.argument?_text hv ht]
  case singleChoice =>
    obtain ⟨s, -, hv, -⟩ := choice_ok h
    rwa [Value.argument?_text hv ht]
  case integer => exact integer_argument hs hkind h ht (hplain hkind)
  case boolean => exact absurd hkind hk
  case date => exact date_argument h ht
  case timestamp => exact timestamp_argument h ht
  case decimal =>
    obtain ⟨⟨⟩, hb, h⟩ := bind_ok.mp h
    refine bind_ok.mpr ⟨(), rfl, ?_⟩
    cases hbinary : f.storageType.isBinary with
    | true =>
      rw [hbinary] at h
      exact binary_argument hb h ht
    | false =>
      rw [hbinary] at h
      exact exact_argument h hr ht

end Rule

end Rules

/-! ## Marks of an exponent

The letter of an exponent outlives every step in which a whole number is read, up to its digits.
-/

section Marks

variable {c : Char} {cs rest : List Char}

theorem mem_dropWhile {p : Char → Bool} (hp : p c = false) (h : c ∈ cs) : c ∈ cs.dropWhile p := by
  rw [← List.takeWhile_append_dropWhile (p := p) (l := cs), List.mem_append] at h
  rcases h with h | h
  · rw [List.mem_takeWhile_imp h] at hp
    cases hp
  · exact h

theorem mem_trim {p : Char → Bool} (hp : p c = false) (h : c ∈ cs) :
    c ∈ ((cs.dropWhile p).reverse.dropWhile p).reverse :=
  List.mem_reverse.mpr (mem_dropWhile hp (List.mem_reverse.mpr (mem_dropWhile hp h)))

theorem digitsValue?_none (hd : c.isDigit = false) (h : c ∈ cs) : Decimal.digitsValue? cs = none := by
  have hnone : ∀ l : List Char, l.foldl (fun acc c => acc.bind fun n =>
      if c.isDigit then some (10 * n + (c.toNat - 48)) else none) (none : Option ℕ) = none := by
    intro l
    induction l with
    | nil => rfl
    | cons d l ih => exact ih
  obtain ⟨front, back, rfl⟩ := List.append_of_mem h
  rw [Decimal.digitsValue?, List.foldl_append, List.foldl_cons]
  cases List.foldl (fun acc c => acc.bind fun n =>
      if c.isDigit then some (10 * n + (c.toNat - 48)) else none) (some 0) front with
  | none => exact hnone back
  | some n =>
    simp only [Option.bind_some, hd, Bool.false_eq_true, if_false]
    exact hnone back

variable (hc : c = 'e' ∨ c = 'E')

include hc

theorem mem_stripLeadingZeros (h : c ∈ cs) (hr : Coercion.stripLeadingZeros cs = some rest) :
    c ∈ rest := by
  have hzero : c ≠ '0' := by
    rintro rfl
    exact absurd hc (by decide)
  have hskip : (c = '0' || c = '_') = false := by
    rcases hc with rfl | rfl <;> decide
  unfold Coercion.stripLeadingZeros at hr
  split at hr
  · rename_i zeros
    have htail := mem_dropWhile (p := fun c => c = '0' || c = '_') hskip
      ((List.mem_cons.mp h).resolve_left hzero)
    simp only at hr
    split at hr
    · rename_i hempty
      rw [hempty] at htail
      cases htail
    · cases hr
      exact List.mem_cons_of_mem _ htail
    · split at hr
      · cases hr
        exact htail
      · cases hr
  · split at hr
    · cases hr
      exact h
    · cases hr
  · cases hr

theorem mem_withoutPlus (h : c ∈ cs) (hr : withoutPlus cs = some rest) : c ∈ rest := by
  unfold withoutPlus at hr
  split at hr
  · split at hr
    · cases hr
    · cases hr
      refine (List.mem_cons.mp h).resolve_left ?_
      rintro rfl
      exact absurd hc (by decide)
  · cases hr
    exact h

theorem mem_stripZeroFraction (h : c ∈ cs) : c ∈ Coercion.stripZeroFraction cs := by
  unfold Coercion.stripZeroFraction
  split
  · rename_i fraction hfraction
    split
    · rename_i hzeros
      rw [← List.takeWhile_append_dropWhile (p := (· ≠ '.')) (l := cs), List.mem_append, hfraction,
        List.mem_cons] at h
      rcases h with h | rfl | h
      · exact h
      · exact absurd hc (by decide)
      · have hz := List.all_eq_true.mp hzeros.2 c h
        rcases hc with rfl | rfl <;> cases hz
    · exact h
  · exact h

theorem mem_stripUnderscores? (h : c ∈ cs) (hr : Coercion.stripUnderscores? cs = some rest) :
    c ∈ rest := by
  unfold Coercion.stripUnderscores? at hr
  split at hr
  · cases hr
  · cases hr
    refine List.mem_filter.mpr ⟨h, ?_⟩
    rcases hc with rfl | rfl <;> decide

theorem plainInteger?_none (h : c ∈ cs) : Coercion.plainInteger? cs = none := by
  have hd : c.isDigit = false := by
    rcases hc with rfl | rfl <;> decide
  unfold Coercion.plainInteger?
  split
  rename_i negative digits hsplit
  have hmem : c ∈ digits := by
    split at hsplit
    · cases hsplit
      refine (List.mem_cons.mp h).resolve_left ?_
      rintro rfl
      exact absurd hc (by decide)
    · cases hsplit
      exact h
  rw [digitsValue?_none hd hmem]
  simp

end Marks

/-- No text with an exponent is read as a whole number. -/
theorem Coercion.integerOfText_exponent {text : String} (h : hasExponent text = true) :
    integerOfText text = .error .integerText := by
  obtain ⟨c, hmem, hmark⟩ := List.any_eq_true.mp h
  have hc : c = 'e' ∨ c = 'E' := by simpa using hmark
  have hspace : isWhiteSpace c = false := by
    rcases hc with rfl | rfl <;> decide
  have htrim : c ∈ trimWhiteSpace text.toList := mem_trim hspace hmem
  rw [integerOfText_eq]
  split
  · rfl
  · rename_i cleaned hcleaned
    obtain ⟨stripped, hstripped, hcleaned⟩ := Option.bind_eq_some_iff.mp hcleaned
    obtain ⟨unsigned, hunsigned, hstripped⟩ := Option.bind_eq_some_iff.mp hstripped
    have hmem := mem_stripLeadingZeros hc (mem_withoutPlus hc htrim hunsigned) hstripped
    have hmem := mem_stripUnderscores? hc (mem_stripZeroFraction hc hmem) hcleaned
    simp only [plainInteger?_none hc hmem]

/-- A whole-number column refuses whatever is written with an exponent. -/
theorem Rule.exponent_refused {f : Field} (hk : f.kind = .integer) {text : String}
    (h : hasExponent text = true) : value f (.text text) = .error (.refused .integerText) := by
  have hread : Coercion.integer (.text text) = .error .integerText :=
    Coercion.integerOfText_exponent h
  simp only [value, present, builtIn, hk, integer, rejectBoolean, hread, Ruled.ofRefusal,
    Ruled.refuse, ok_bind, error_bind]

end EntityStore
