import EntityStore.Proofs.DecimalValue
import EntityStore.Proofs.Traversal
import EntityStore.Validation.Rule

/-! # Values that pass the rules

The rules of a field pass a value in one form for each kind. What a passed value is known to keep
is stated for each group of rules.
-/
namespace EntityStore

namespace Ruled

theorem require_ok {holds : Bool} {cause : Refusal} :
    require holds cause = .ok () ↔ holds = true := by
  cases holds <;> simp [require, refuse]

end Ruled

namespace Rule

open Ruled

variable {f : Field} {v x : Value}

/-! ## Texts -/

theorem readText_ok {s : String} : readText v = .ok s ↔ v = .text s := by
  cases v <;> simp [readText, refuse]

theorem checkLength_ok {least most : Option ℕ} {s : String} (h : checkLength least most s = .ok ())
    {n : ℕ} (hn : most = some n) : s.length ≤ n := by
  subst hn
  cases least with
  | none => simpa using require_ok.mp h
  | some k =>
    obtain ⟨⟨⟩, -, h⟩ := bind_ok.mp h
    simpa using require_ok.mp h

theorem le_of_mostCharacters {s : String} (h : ∀ n, mostCharacters f = some n → s.length ≤ n)
    {n : ℕ} (hn : f.varcharLength? = some n) : s.length ≤ n := by
  unfold mostCharacters at h
  rw [hn] at h
  cases hm : f.rules.maxLength with
  | none => exact h n (by rw [hm])
  | some m =>
    have := h (min m n) (by rw [hm])
    omega

theorem text_ok (h : text f v = .ok x) :
    ∃ s, v = .text s ∧ x = .text s ∧ ∀ n, f.varcharLength? = some n → s.length ≤ n := by
  obtain ⟨s, hs, h⟩ := bind_ok.mp h
  obtain ⟨⟨⟩, hl, h⟩ := bind_ok.mp h
  have hx : x = .text s := by
    cases hp : f.rules.pattern with
    | none =>
      rw [hp] at h
      obtain ⟨⟨⟩, -, h⟩ := bind_ok.mp h
      injection h with h
      exact h.symm
    | some p =>
      rw [hp] at h
      obtain ⟨⟨⟩, -, h⟩ := bind_ok.mp h
      obtain ⟨⟨⟩, -, h⟩ := bind_ok.mp h
      injection h with h
      exact h.symm
  exact ⟨s, readText_ok.mp hs, hx, fun n => le_of_mostCharacters fun m => checkLength_ok hl⟩

theorem fileReference_ok (h : fileReference f v = .ok x) :
    ∃ s, v = .text s ∧ x = .text s ∧ ∀ n, f.varcharLength? = some n → s.length ≤ n := by
  obtain ⟨s, hs, h⟩ := bind_ok.mp h
  obtain ⟨⟨⟩, hl, h⟩ := bind_ok.mp h
  injection h with h
  exact ⟨s, readText_ok.mp hs, h.symm, fun n => checkLength_ok hl⟩

theorem choice_ok (h : choice f v = .ok x) :
    ∃ s ∈ f.rules.options, v = .text s ∧ x = .text s := by
  unfold choice at h
  split at h
  · split at h
    · rename_i s hs
      injection h with h
      exact ⟨s, by simpa using hs, rfl, h.symm⟩
    · cases h
  · cases h

/-! ## Numbers -/

theorem integer_ok (h : integer f v = .ok x) :
    ∃ n, x = .int n ∧ ∀ low high, f.integerRange? = some (low, high) → low ≤ n ∧ n ≤ high := by
  obtain ⟨-, -, h⟩ := bind_ok.mp h
  obtain ⟨n, -, h⟩ := bind_ok.mp h
  obtain ⟨-, -, h⟩ := bind_ok.mp h
  obtain ⟨⟨⟩, hr, h⟩ := bind_ok.mp h
  injection h with h
  refine ⟨n, h.symm, ?_⟩
  intro low high hf
  unfold checkRange at hr
  rw [hf] at hr
  simpa using require_ok.mp hr

/-- A number that keeps to the bounds is taken as it is. -/
theorem checkNumber_ok (h : checkNumber f v = .ok x) :
    x = v ∧ checkBounds f.rules v = .ok () := by
  cases hi : f.rules.integerOnly with
  | false =>
    simp only [checkNumber, hi, Bool.false_eq_true, if_false] at h
    obtain ⟨⟨⟩, hb, h⟩ := bind_ok.mp h
    injection h with h
    exact ⟨h.symm, hb⟩
  | true =>
    simp only [checkNumber, hi, if_true] at h
    obtain ⟨⟨⟩, -, h⟩ := bind_ok.mp h
    obtain ⟨⟨⟩, hb, h⟩ := bind_ok.mp h
    injection h with h
    exact ⟨h.symm, hb⟩

theorem binary_ok (h : binary f v = .ok x) : ∃ y : Binary64, x = .float y ∧ y.isFinite = true := by
  obtain ⟨y, -, h⟩ := bind_ok.mp h
  obtain ⟨⟨⟩, hy, h⟩ := bind_ok.mp h
  exact ⟨y, (checkNumber_ok h).1, require_ok.mp hy⟩

theorem exact_ok (h : exact f v = .ok x) :
    ∃ d : Decimal, x = .decimal d ∧ d.isFinite = true ∧
      ∀ p, f.storage.precision = some p → checkDigits p (f.storage.scale.getD 0) d = .ok () := by
  obtain ⟨d, -, h⟩ := bind_ok.mp h
  obtain ⟨⟨⟩, hd, h⟩ := bind_ok.mp h
  cases hp : f.storage.precision with
  | none =>
    rw [hp] at h
    exact ⟨d, (checkNumber_ok h).1, require_ok.mp hd, fun p hf => by cases hf⟩
  | some q =>
    rw [hp] at h
    obtain ⟨⟨⟩, hq, h⟩ := bind_ok.mp h
    refine ⟨d, (checkNumber_ok h).1, require_ok.mp hd, ?_⟩
    rintro p ⟨⟩
    exact hq

theorem checkDigits_ok {precision scale : ℕ} {d : Decimal}
    (h : checkDigits precision scale d = .ok ()) :
    (d.digitUse.2 ≤ scale ∨ d.normalize.digitUse.2 ≤ scale) ∧
      (d.digitUse.1 - d.digitUse.2 ≤ precision - scale ∨
        d.normalize.digitUse.1 - d.normalize.digitUse.2 ≤ precision - scale) := by
  obtain ⟨⟨⟩, -, h⟩ := bind_ok.mp h
  obtain ⟨⟨⟩, hp, h⟩ := bind_ok.mp h
  have hp := require_ok.mp hp
  have hw := require_ok.mp h
  simp only [Bool.or_eq_true, decide_eq_true_eq] at hp hw
  exact ⟨hp, hw⟩

/-- A number that passes the digit check has no more digits before the point than its column. -/
theorem scaled_lt_of_checkDigits {precision scale c : ℕ} {s : Bool} {e : ℤ}
    (h : checkDigits precision scale (.finite s c e) = .ok ()) :
    Decimal.scaled c e < 10 ^ (precision - scale) := by
  rcases (checkDigits_ok h).2 with hw | hw
  · exact Decimal.scaled_lt_digitUse.trans_le (pow_le_pow_right₀ (by norm_num) hw)
  · apply Decimal.scaled_lt_of_rounded
    obtain ⟨c', e', hn, hv⟩ := Decimal.normalize_scaled s c e
    rw [hn] at hw
    rw [← hv]
    exact Decimal.scaled_lt_digitUse.trans_le (pow_le_pow_right₀ (by norm_num) hw)

/-- Where the check sees the number as it is, no more digits follow the point than in the column. -/
theorem places_of_checkDigits {precision scale c : ℕ} {s : Bool} {e : ℤ}
    (h : checkDigits precision scale (.finite s c e) = .ok ())
    (hx : (Decimal.finite s c e).normalize.value? = (Decimal.finite s c e).value?) :
    Decimal.Places scale (Decimal.scaled c e) := by
  rcases (checkDigits_ok h).1 with hp | hp
  · exact Decimal.places_digitUse.mono hp
  · obtain ⟨c', e', hn, -⟩ := Decimal.normalize_scaled s c e
    rw [hn] at hp hx
    have hv : Decimal.scaled c' e' = Decimal.scaled c e := by
      cases s <;> simpa [Decimal.value?] using hx
    rw [← hv]
    exact Decimal.places_digitUse.mono hp

/-! ## Flags, dates and moments -/

theorem boolean_ok (h : boolean v = .ok x) : ∃ b, v = .bool b ∧ x = .bool b := by
  unfold boolean at h
  split at h
  · injection h with h
    exact ⟨_, rfl, h.symm⟩
  · cases h

theorem date_ok (h : date v = .ok x) : ∃ d, x = .date d := by
  unfold date at h
  split at h
  · injection h with h
    exact ⟨_, h.symm⟩
  · cases h
  · split at h
    · injection h with h
      exact ⟨_, h.symm⟩
    · cases h
  · cases h

end Rule

theorem Timestamp.toUtc?_offset {t u : Timestamp} (h : t.toUtc? = some u) :
    u.offset = some 0 := by
  unfold Timestamp.toUtc? at h
  split at h
  · injection h with h
    rw [← h]
  · rename_i ho
    injection h with h
    rw [← h, ho]
  · unfold Timestamp.ofInstant? at h
    split at h
    · cases h
    · obtain ⟨d, -, h⟩ := Option.map_eq_some_iff.mp h
      rw [← h]

namespace Rule

open Ruled

variable {f : Field} {v x : Value}

theorem timestamp_ok (h : timestamp v = .ok x) :
    ∃ t : Timestamp, x = .timestamp t ∧ t.offset = some 0 := by
  obtain ⟨t, -, h⟩ := bind_ok.mp h
  split at h
  · rename_i u hu
    injection h with h
    exact ⟨u, h.symm, Timestamp.toUtc?_offset hu⟩
  · cases h

/-! ## The field -/

end Rule

/-- The forms in which the rules of the kinds pass a value. -/
inductive Field.Passed (f : Field) : Value → Prop where
  | text (s : String) (kind : f.kind = .shortText ∨ f.kind = .longText ∨ f.kind = .fileReference)
    (length : ∀ n, f.varcharLength? = some n → s.length ≤ n) : Passed f (.text s)
  | choice (s : String) (kind : f.kind = .singleChoice) (option : s ∈ f.rules.options) :
    Passed f (.text s)
  | integer (n : ℤ) (kind : f.kind = .integer)
    (range : ∀ low high, f.integerRange? = some (low, high) → low ≤ n ∧ n ≤ high) :
    Passed f (.int n)
  | binary (y : Binary64) (kind : f.kind = .decimal) (storage : f.storageType.isBinary = true)
    (finite : y.isFinite = true) : Passed f (.float y)
  | exact (d : Decimal) (kind : f.kind = .decimal) (storage : f.storageType.isBinary = false)
    (finite : d.isFinite = true)
    (digits : ∀ p, f.storage.precision = some p →
      Rule.checkDigits p (f.storage.scale.getD 0) d = .ok ()) : Passed f (.decimal d)
  | boolean (b : Bool) (kind : f.kind = .boolean) : Passed f (.bool b)
  | date (d : Date) (kind : f.kind = .date) : Passed f (.date d)
  | timestamp (t : Timestamp) (kind : f.kind = .timestamp) (utc : t.offset = some 0) :
    Passed f (.timestamp t)

namespace Rule

open Ruled

variable {f : Field} {v x : Value}

theorem builtIn_ok (h : builtIn f v = .ok x) : f.Passed x := by
  unfold builtIn at h
  cases hk : f.kind <;> rw [hk] at h
  case shortText =>
    obtain ⟨s, -, rfl, hl⟩ := text_ok h
    exact .text s (.inl hk) hl
  case longText =>
    obtain ⟨s, -, rfl, hl⟩ := text_ok h
    exact .text s (.inr (.inl hk)) hl
  case fileReference =>
    obtain ⟨s, -, rfl, hl⟩ := fileReference_ok h
    exact .text s (.inr (.inr hk)) hl
  case singleChoice =>
    obtain ⟨s, ho, -, rfl⟩ := choice_ok h
    exact .choice s hk ho
  case integer =>
    obtain ⟨n, rfl, hr⟩ := integer_ok h
    exact .integer n hk hr
  case boolean =>
    obtain ⟨b, -, rfl⟩ := boolean_ok h
    exact .boolean b hk
  case date =>
    obtain ⟨d, rfl⟩ := date_ok h
    exact .date d hk
  case timestamp =>
    obtain ⟨t, rfl, ho⟩ := timestamp_ok h
    exact .timestamp t hk ho
  case decimal =>
    obtain ⟨⟨⟩, -, h⟩ := bind_ok.mp h
    cases hb : f.storageType.isBinary with
    | true =>
      rw [hb] at h
      obtain ⟨y, rfl, hy⟩ := binary_ok h
      exact .binary y hk hb hy
    | false =>
      rw [hb] at h
      obtain ⟨d, rfl, hd, hp⟩ := exact_ok h
      exact .exact d hk hb hd hp

/-- Null passes only where the column accepts it; any other value passes by the rules of its kind. -/
theorem value_ok (h : value f v = .ok x) :
    v = .null ∧ x = .null ∧ f.isNullable = true ∨ v ≠ .null ∧ f.Passed x := by
  unfold value at h
  split at h
  · split at h
    · rename_i hn
      injection h with h
      exact .inl ⟨rfl, h.symm, by simp_all⟩
    · cases h
  · rename_i hv
    obtain ⟨y, hy, h⟩ := bind_ok.mp h
    obtain ⟨⟨⟩, -, h⟩ := bind_ok.mp h
    injection h with h
    exact .inr ⟨hv, h ▸ builtIn_ok hy⟩

/-! ## Passing again -/

theorem integer_stable (h : integer f v = .ok x) : integer f x = .ok x := by
  obtain ⟨-, -, h⟩ := bind_ok.mp h
  obtain ⟨n, -, h⟩ := bind_ok.mp h
  obtain ⟨⟨⟩, hb, h⟩ := bind_ok.mp h
  obtain ⟨⟨⟩, hr, h⟩ := bind_ok.mp h
  injection h with h
  subst h
  simp only [integer, rejectBoolean, Coercion.integer, ofRefusal, ok_bind, hb, hr]
  rfl

theorem binary_stable (h : binary f v = .ok x) : binary f x = .ok x := by
  obtain ⟨y, -, h⟩ := bind_ok.mp h
  obtain ⟨⟨⟩, hy, h⟩ := bind_ok.mp h
  obtain ⟨rfl, -⟩ := checkNumber_ok h
  simp only [binary, Coercion.float, ofRefusal, ok_bind, hy, h]

theorem exact_stable (h : exact f v = .ok x) : exact f x = .ok x := by
  obtain ⟨d, -, h⟩ := bind_ok.mp h
  obtain ⟨⟨⟩, hd, h⟩ := bind_ok.mp h
  have hx : x = .decimal d := by
    cases hp : f.storage.precision with
    | none =>
      rw [hp] at h
      exact (checkNumber_ok h).1
    | some p =>
      rw [hp] at h
      obtain ⟨⟨⟩, -, h⟩ := bind_ok.mp h
      exact (checkNumber_ok h).1
  subst hx
  simp only [exact, readDecimal, ok_bind, hd]
  exact h

theorem decimal_stable (h : decimal f v = .ok x) : decimal f x = .ok x := by
  obtain ⟨⟨⟩, -, h⟩ := bind_ok.mp h
  cases hb : f.storageType.isBinary with
  | true =>
    rw [hb] at h
    obtain ⟨y, rfl, -⟩ := binary_ok h
    simp only [decimal, rejectBoolean, ok_bind, hb, if_true]
    exact binary_stable h
  | false =>
    rw [hb] at h
    obtain ⟨d, rfl, -⟩ := exact_ok h
    simp only [decimal, rejectBoolean, ok_bind, hb, Bool.false_eq_true, if_false]
    exact exact_stable h

theorem builtIn_stable (h : builtIn f v = .ok x) : builtIn f x = .ok x := by
  unfold builtIn at h ⊢
  cases hk : f.kind <;> rw [hk] at h
  case shortText =>
    obtain ⟨s, rfl, rfl, -⟩ := text_ok h
    exact h
  case longText =>
    obtain ⟨s, rfl, rfl, -⟩ := text_ok h
    exact h
  case fileReference =>
    obtain ⟨s, rfl, rfl, -⟩ := fileReference_ok h
    exact h
  case singleChoice =>
    obtain ⟨s, -, rfl, rfl⟩ := choice_ok h
    exact h
  case integer => exact integer_stable h
  case decimal => exact decimal_stable h
  case boolean =>
    obtain ⟨b, rfl, rfl⟩ := boolean_ok h
    exact h
  case date =>
    obtain ⟨d, rfl⟩ := date_ok h
    rfl
  case timestamp =>
    obtain ⟨t, rfl, ho⟩ := timestamp_ok h
    have hu : t.toUtc? = some t := by
      simp only [Timestamp.toUtc?, ho]
    simp only [timestamp, readTimestamp, ok_bind, hu]
    rfl

/-- A value in the form in which it passed passes again, and stays as it is. -/
theorem value_stable (h : value f v = .ok x) : value f x = .ok x := by
  unfold value at h
  split at h
  · split at h
    · rename_i hn
      injection h with h
      subst h
      simp only [value, hn, if_true]
    · cases h
  · obtain ⟨y, hy, h⟩ := bind_ok.mp h
    obtain ⟨⟨⟩, hr, h⟩ := bind_ok.mp h
    injection h with h
    subst h
    have hne : y ≠ .null := by
      have hp := builtIn_ok hy
      rintro rfl
      cases hp
    have hpresent : present f y = .ok y := by
      simp only [present, builtIn_stable hy, ok_bind, hr]
      rfl
    unfold value
    split
    · exact absurd rfl hne
    · exact hpresent

end Rule

end EntityStore
