import EntityStore.Proofs.Bounds
import EntityStore.Proofs.Checking
import EntityStore.Proofs.ColumnFit

/-! # Room between the bounds

The check of a descriptor compares the declared bounds with each other. What a field leaves to its
values is less: its column has a length or a range of its own, a decimal column has digits, numbers
may have to be positive, and nothing lies above an endless minimum. A field takes a value where all
of them leave room together.
-/
namespace EntityStore

/-! ## Numbers of columns -/

namespace ColumnType

/-- The numbers that values for a column may stand for: whole ones in the range of an integer
column, those of the doubles in a binary one, and in one of decimal numbers those that can be
written so that the check of their digits passes. -/
def Numbers (t : ColumnType) (q : ℚ) : Prop :=
  match t with
  | .numeric precision scale => ∃ d : Decimal, d.value? = some q ∧
      ∀ p, precision = some p → Rule.checkDigits p (scale.getD 0) d = .ok ()
  | .real | .double => ∃ x : Binary64, x.toRat? = some q
  | t => ∃ low high, t.range? = some (low, high) ∧ ∃ n : ℤ, low ≤ n ∧ n ≤ high ∧ q = n

theorem numbers_of_range {t : ColumnType} {low high : ℤ} (h : t.range? = some (low, high)) {q : ℚ} :
    t.Numbers q ↔ ∃ n : ℤ, low ≤ n ∧ n ≤ high ∧ q = n := by
  cases t with
  | smallint | integer | bigint =>
    cases h
    simp [Numbers, range?]
  | _ => cases h

end ColumnType

/-! ## Room -/

namespace Field

/-- A field that asks for nothing beyond its kind, its bounds and its column. -/
structure Unrestricted (f : Field) : Prop where
  pattern : f.rules.pattern = none
  format : f.rules.format = none
  integerOnly : f.rules.integerOnly = false
  refine : f.rules.refine = []

/-- The bounds leave room for a text that the column holds, or for one of its numbers. A bound that
is a NaN leaves none in a column of decimal numbers. -/
def HasRoom (f : Field) : Prop :=
  match f.kind with
  | .shortText | .longText => ∀ least length, f.rules.minLength = some least →
      f.column.type = .varchar length → least ≤ length
  | .integer | .decimal => (∀ p s, f.column.type = .numeric p s → f.rules.Ordered) ∧
      ∃ q, f.column.type.Numbers q ∧ f.rules.Admits q
  | _ => True

end Field

theorem fieldProblems_rules {f : Field} (h : fieldProblems f = .ok []) :
    boundProblems f.rules = [] ∧ optionProblems f = [] := by
  obtain ⟨patterns, -, h⟩ := bind_ok.mp h
  simp only [pure, Except.pure, Except.ok.injEq, List.append_eq_nil_iff, List.map_eq_nil_iff] at h
  exact ⟨h.2.1.1.1.1.2, h.2.1.1.2⟩

/-- The bounds that are declared in pairs do not contradict each other. -/
structure Rules.Uncrossed (r : Rules) : Prop where
  lengths : ∀ low high, r.minLength = some low → r.maxLength = some high → low ≤ high
  numbers : ∀ a b x y, r.minimum = some a → r.maximum = some b →
    a.quantity? = some (.ratio x) → b.quantity? = some (.ratio y) → x ≤ y

theorem uncrossed_of_boundProblems {r : Rules} (h : boundProblems r = []) : r.Uncrossed := by
  obtain ⟨hlengths, hnumbers⟩ := List.append_eq_nil_iff.mp h
  constructor
  · intro low high hlow hhigh
    rw [hlow, hhigh] at hlengths
    exact Nat.le_of_not_lt (problems_nil hlengths)
  · intro a b x y ha hb hx hy
    rw [ha, hb] at hnumbers
    have hless := problems_nil hnumbers
    rw [Bound.less_iff_above hy hx] at hless
    exact not_lt.mp hless

theorem optionProblems_some {f : Field} (h : optionProblems f = []) (hk : f.kind = .singleChoice) :
    ∃ o, o ∈ f.rules.options := by
  simp only [optionProblems, hk, ne_eq, not_true_eq_false, if_false, List.append_eq_nil_iff] at h
  have hsome := problems_nil h.1.1
  exact List.exists_mem_of_ne_nil _ (by simpa using hsome)

namespace Rule

variable {f : Field}

/-! ## Room is enough -/

theorem value_of_builtIn (hu : f.rules.refine = []) {v x : Value} (hv : v ≠ .null)
    (h : builtIn f v = .ok x) : value f v = .ok x := by
  have hpresent : present f v = .ok x := by
    simp only [present, h, ok_bind, hu]
    rfl
  unfold value
  split
  · exact absurd rfl hv
  · exact hpresent

theorem checkLength_passes {least most : Option ℕ} {s : String}
    (hleast : ∀ n, least = some n → n ≤ s.length) (hmost : ∀ n, most = some n → s.length ≤ n) :
    checkLength least most s = .ok () := by
  unfold checkLength
  cases least with
  | none =>
    cases most with
    | none => rfl
    | some m => simpa [Ruled.require_ok] using hmost m rfl
  | some n =>
    have hn : Ruled.require (n ≤ s.length) (.tooShort n) = .ok () :=
      Ruled.require_ok.mpr (decide_eq_true (hleast n rfl))
    cases most with
    | none => simp [hn, pure, Except.pure]
    | some m =>
      have hm : Ruled.require (s.length ≤ m) (.tooLong m) = .ok () :=
        Ruled.require_ok.mpr (decide_eq_true (hmost m rfl))
      simp only [hn, hm, ok_bind]

theorem column_of_varcharLength {n : ℕ} (h : f.varcharLength? = some n) :
    f.column.type = .varchar n := by
  unfold Field.varcharLength? at h
  split at h
  · rename_i ht
    cases h
    simp [Field.column, Field.columnType, ht]
  · cases h

/-- A text of the least length that is asked for. -/
theorem text_of_room (hu : f.Unrestricted) (hb : f.rules.Uncrossed)
    (hroom : ∀ least length, f.rules.minLength = some least → f.column.type = .varchar length →
      least ≤ length) : ∃ s, text f (.text s) = .ok (.text s) := by
  obtain ⟨s, hs⟩ : ∃ s : String, s.length = f.rules.minLength.getD 0 :=
    ⟨String.ofList (List.replicate (f.rules.minLength.getD 0) 'a'), by simp⟩
  have hcolumn : ∀ n, f.varcharLength? = some n → s.length ≤ n := by
    intro n hn
    rw [hs]
    cases hmin : f.rules.minLength with
    | none => exact Nat.zero_le n
    | some least => exact hroom least n hmin (column_of_varcharLength hn)
  have hrules : ∀ n, f.rules.maxLength = some n → s.length ≤ n := by
    intro n hn
    rw [hs]
    cases hmin : f.rules.minLength with
    | none => exact Nat.zero_le n
    | some least => exact hb.lengths least n hmin hn
  have hlength : checkLength f.rules.minLength (mostCharacters f) s = .ok () := by
    refine checkLength_passes (fun n hn => by simp [hs, hn]) fun n hn => ?_
    unfold mostCharacters at hn
    split at hn
    · rename_i hmax hcol
      cases hn
      exact Nat.le_min.mpr ⟨hrules _ hmax, hcolumn _ hcol⟩
    · rename_i hmax hcol
      cases hn
      exact hrules _ hmax
    · exact hcolumn n hn
  refine ⟨s, ?_⟩
  simp only [text, readText, hlength, hu.pattern, hu.format, checkFormat, ok_bind]
  rfl

/-- A number that the bounds admit passes them in each form but that of a decimal number. -/
theorem integer_of_room {n low high : ℤ} (hr : f.integerRange? = some (low, high)) (hlow : low ≤ n)
    (hhigh : n ≤ high) (ha : f.rules.Admits n) : integer f (.int n) = .ok (.int n) := by
  have hbounds : checkBounds f.rules (.int n) = .ok () :=
    (checkBounds_ok_iff rfl).mpr ⟨ha, by rintro ⟨d, ⟨⟩⟩⟩
  have hrange : checkRange f n = .ok () := by
    unfold checkRange
    rw [hr]
    exact Ruled.require_ok.mpr (by simp [hlow, hhigh])
  simp only [integer, rejectBoolean, Coercion.integer, Ruled.ofRefusal, hbounds, hrange, ok_bind]
  rfl

theorem quantity?_of_toRat {x : Binary64} {q : ℚ} (h : x.toRat? = some q) :
    x.isFinite = true ∧ x.quantity? = some (.ratio q) := by
  cases x with
  | finite s m e hf =>
    rw [Binary64.toRat?_finite] at h
    rw [Binary64.quantity?_finite, Option.some.inj h]
    exact ⟨rfl, rfl⟩
  | infinity s => cases h
  | nan => cases h

theorem checkNumber_of_bounds {v : Value} (hi : f.rules.integerOnly = false)
    (hb : checkBounds f.rules v = .ok ()) : checkNumber f v = .ok v := by
  simp only [checkNumber, hi, hb, ok_bind, Bool.false_eq_true, if_false]
  rfl

theorem binary_of_room {x : Binary64} {q : ℚ} (hi : f.rules.integerOnly = false)
    (hx : x.toRat? = some q) (ha : f.rules.Admits q) : binary f (.float x) = .ok (.float x) := by
  obtain ⟨hfinite, hquantity⟩ := quantity?_of_toRat hx
  have hbounds : checkBounds f.rules (.float x) = .ok () :=
    (checkBounds_ok_iff (v := .float x) hquantity).mpr ⟨ha, by rintro ⟨d, ⟨⟩⟩⟩
  simp only [binary, Coercion.float, Ruled.ofRefusal, Ruled.require, hfinite, if_true, ok_bind]
  exact checkNumber_of_bounds hi hbounds

theorem quantity?_of_value {d : Decimal} {q : ℚ} (h : d.value? = some q) :
    d.isFinite = true ∧ d.quantity? = some (.ratio q) := by
  cases d with
  | finite s c e => exact ⟨rfl, congrArg (Option.map Quantity.ratio) h⟩
  | infinity s => cases h
  | nan _ _ _ => cases h

theorem exact_of_room {d : Decimal} {q : ℚ} (hi : f.rules.integerOnly = false)
    (hd : d.value? = some q) (hdigits : ∀ p, f.storage.precision = some p →
      checkDigits p (f.storage.scale.getD 0) d = .ok ())
    (ho : f.rules.Ordered) (ha : f.rules.Admits q) : exact f (.decimal d) = .ok (.decimal d) := by
  obtain ⟨hfinite, hquantity⟩ := quantity?_of_value hd
  have hbounds : checkBounds f.rules (.decimal d) = .ok () :=
    (checkBounds_ok_iff (v := .decimal d) hquantity).mpr ⟨ha, fun _ => ho⟩
  have hnumber := checkNumber_of_bounds hi hbounds
  cases hp : f.storage.precision with
  | none => simp only [exact, readDecimal, Ruled.require, hfinite, if_true, hp, hnumber, ok_bind]
  | some p =>
    simp only [exact, readDecimal, Ruled.require, hfinite, if_true, hp, hdigits p hp, hnumber,
      ok_bind]

theorem column_of_binary (hs : f.Sound) (hk : f.kind = .decimal)
    (hb : f.storageType.isBinary = true) : f.column.type = .real ∨ f.column.type = .double := by
  rcases hs.decimal_storage hk with h | h | h | h <;> rw [h] at hb <;>
    simp_all [StorageType.isBinary, Field.column, Field.columnType]

theorem column_of_exact (hs : f.Sound) (hk : f.kind = .decimal)
    (hb : f.storageType.isBinary = false) :
    f.column.type = .numeric f.storage.precision f.storage.scale := by
  rcases hs.decimal_storage hk with h | h | h | h <;> rw [h] at hb <;>
    simp_all [StorageType.isBinary, Field.column, Field.columnType]

/-- A decimal number of the column that no bound excludes passes. -/
theorem decimal_of_room (hs : f.Sound) (hk : f.kind = .decimal) (hi : f.rules.integerOnly = false)
    (ho : ∀ p s, f.column.type = .numeric p s → f.rules.Ordered) {q : ℚ}
    (hq : f.column.type.Numbers q) (ha : f.rules.Admits q) :
    ∃ v, v ≠ .null ∧ decimal f v = .ok v := by
  cases hb : f.storageType.isBinary with
  | true =>
    obtain ⟨x, hx⟩ : ∃ x : Binary64, x.toRat? = some q := by
      rcases column_of_binary hs hk hb with ht | ht <;>
        simpa only [ht, ColumnType.Numbers] using hq
    refine ⟨.float x, by simp, ?_⟩
    simp only [decimal, rejectBoolean, hb, if_true, ok_bind]
    exact binary_of_room hi hx ha
  | false =>
    have ht := column_of_exact hs hk hb
    rw [ht] at hq
    obtain ⟨d, hd, hdigits⟩ := hq
    refine ⟨.decimal d, by simp, ?_⟩
    simp only [decimal, rejectBoolean, hb, Bool.false_eq_true, if_false, ok_bind]
    exact exact_of_room hi hd hdigits (ho _ _ ht) ha

/-- A field that has room for a value takes one. -/
theorem value_of_room (hs : f.Sound) (hf : fieldProblems f = .ok []) (hu : f.Unrestricted)
    (h : f.HasRoom) : ∃ v x, v ≠ .null ∧ value f v = .ok x := by
  suffices hbuilt : ∃ v x, v ≠ .null ∧ builtIn f v = .ok x by
    obtain ⟨v, x, hv, hx⟩ := hbuilt
    exact ⟨v, x, hv, value_of_builtIn hu.refine hv hx⟩
  obtain ⟨hb, hoptions⟩ := fieldProblems_rules hf
  unfold Field.HasRoom at h
  unfold builtIn
  cases hk : f.kind <;> rw [hk] at h
  case shortText | longText =>
    obtain ⟨s, hs⟩ := text_of_room hu (uncrossed_of_boundProblems hb) h
    exact ⟨.text s, .text s, by simp, hs⟩
  case integer =>
    obtain ⟨-, q, hq, ha⟩ := h
    obtain ⟨low, high, hcolumn, hr⟩ := Field.range?_of_integer hs hk
    obtain ⟨n, hlow, hhigh, rfl⟩ := (ColumnType.numbers_of_range hcolumn).mp hq
    exact ⟨.int n, .int n, by simp, integer_of_room hr hlow hhigh ha⟩
  case decimal =>
    obtain ⟨ho, q, hq, ha⟩ := h
    obtain ⟨v, hv, hx⟩ := decimal_of_room hs hk hu.integerOnly ho hq ha
    exact ⟨v, v, hv, hx⟩
  case boolean => exact ⟨.bool true, .bool true, by simp, rfl⟩
  case date => exact ⟨.date Date.first, .date Date.first, by simp, rfl⟩
  case timestamp =>
    let first : Timestamp := ⟨Date.first, 0, some 0, microsPerDay_pos⟩
    exact ⟨.timestamp first, .timestamp first, by simp, rfl⟩
  case singleChoice =>
    obtain ⟨o, ho⟩ := optionProblems_some hoptions hk
    exact ⟨.text o, .text o, by simp, by simp [choice, ho]⟩
  case fileReference =>
    have hempty : checkLength none f.varcharLength? "" = .ok () :=
      checkLength_passes (by simp) fun n _ => Nat.zero_le n
    refine ⟨.text "", .text "", by simp, ?_⟩
    simp only [fileReference, readText, hempty, ok_bind]
    rfl

/-! ## Room is needed -/

theorem checkLength_least {least most : Option ℕ} {s : String}
    (h : checkLength least most s = .ok ()) {n : ℕ} (hn : least = some n) : n ≤ s.length := by
  subst hn
  cases most with
  | none =>
    obtain ⟨⟨⟩, h, -⟩ := bind_ok.mp h
    simpa using Ruled.require_ok.mp h
  | some k =>
    obtain ⟨⟨⟩, h, -⟩ := bind_ok.mp h
    simpa using Ruled.require_ok.mp h

theorem text_least {s : String} (h : text f (.text s) = .ok (.text s)) {n : ℕ}
    (hn : f.rules.minLength = some n) : n ≤ s.length := by
  obtain ⟨_, ⟨⟩, h⟩ := bind_ok.mp h
  obtain ⟨⟨⟩, hl, -⟩ := bind_ok.mp h
  exact checkLength_least hl hn

theorem bounds_of_integer {n : ℤ} (h : integer f (.int n) = .ok (.int n)) :
    checkBounds f.rules (.int n) = .ok () := by
  obtain ⟨⟨⟩, -, h⟩ := bind_ok.mp h
  obtain ⟨_, ⟨⟩, h⟩ := bind_ok.mp h
  obtain ⟨⟨⟩, hb, -⟩ := bind_ok.mp h
  exact hb

theorem bounds_of_binary {x : Binary64} (h : binary f (.float x) = .ok (.float x)) :
    checkBounds f.rules (.float x) = .ok () := by
  obtain ⟨_, ⟨⟩, h⟩ := bind_ok.mp h
  obtain ⟨⟨⟩, -, h⟩ := bind_ok.mp h
  exact (checkNumber_ok h).2

theorem bounds_of_exact {d : Decimal} (h : exact f (.decimal d) = .ok (.decimal d)) :
    checkBounds f.rules (.decimal d) = .ok () := by
  obtain ⟨_, ⟨⟩, h⟩ := bind_ok.mp h
  obtain ⟨⟨⟩, -, h⟩ := bind_ok.mp h
  cases hp : f.storage.precision with
  | none =>
    rw [hp] at h
    exact (checkNumber_ok h).2
  | some p =>
    rw [hp] at h
    obtain ⟨⟨⟩, -, h⟩ := bind_ok.mp h
    exact (checkNumber_ok h).2

theorem toRat?_of_isFinite {x : Binary64} (h : x.isFinite = true) : ∃ q, x.toRat? = some q := by
  cases x with
  | finite s m e hf => exact ⟨_, Binary64.toRat?_finite s m e hf⟩
  | infinity s => cases h
  | nan => cases h

theorem value?_of_isFinite {d : Decimal} (h : d.isFinite = true) : ∃ q, d.value? = some q := by
  cases d with
  | finite s c e => exact ⟨_, rfl⟩
  | infinity s => cases h
  | nan _ _ _ => cases h

/-- A value in the form in which it passed passes the rules of its kind again. -/
theorem builtIn_of_value {v x : Value} (hv : v ≠ .null) (h : value f v = .ok x) :
    f.Passed x ∧ builtIn f x = .ok x := by
  unfold value at h
  split at h
  · exact absurd rfl hv
  · obtain ⟨y, hy, h⟩ := bind_ok.mp h
    obtain ⟨⟨⟩, -, h⟩ := bind_ok.mp h
    cases h
    exact ⟨builtIn_ok hy, builtIn_stable hy⟩

/-- Only a field that has room takes a value. -/
theorem room_of_value (hs : f.Sound) {v x : Value} (hv : v ≠ .null) (h : value f v = .ok x) :
    f.HasRoom := by
  obtain ⟨hpassed, h⟩ := builtIn_of_value hv h
  unfold Field.HasRoom
  cases hpassed with
  | text s hk hlength =>
    rcases hk with hk | hk | hk <;> rw [builtIn, hk] at h <;> rw [hk]
    · exact fun least length hl hc => (text_least h hl).trans
        (hlength length (Field.varcharLength?_of_column hc))
    · exact fun least length hl hc => (text_least h hl).trans
        (hlength length (Field.varcharLength?_of_column hc))
    · trivial
  | integer n hk hrange =>
    rw [builtIn, hk] at h
    rw [hk]
    obtain ⟨low, high, hc, hr⟩ := Field.range?_of_integer hs hk
    obtain ⟨hlow, hhigh⟩ := hrange low high hr
    refine ⟨fun p s ht => ?_, n, (ColumnType.numbers_of_range hc).mpr ⟨n, hlow, hhigh, rfl⟩, ?_⟩
    · rw [ht] at hc
      cases hc
    · exact ((checkBounds_ok_iff rfl).mp (bounds_of_integer h)).1
  | binary y hk hb hfinite =>
    rw [builtIn, hk] at h
    rw [hk]
    simp only [decimal, rejectBoolean, hb, if_true, ok_bind] at h
    obtain ⟨q, hq⟩ := toRat?_of_isFinite hfinite
    have hadmits :=
      ((checkBounds_ok_iff (v := .float y) (quantity?_of_toRat hq).2).mp (bounds_of_binary h)).1
    rcases column_of_binary hs hk hb with ht | ht <;> rw [ht]
    · exact ⟨by simp, q, ⟨y, hq⟩, hadmits⟩
    · exact ⟨by simp, q, ⟨y, hq⟩, hadmits⟩
  | exact d hk hb hfinite hdigits =>
    rw [builtIn, hk] at h
    rw [hk]
    simp only [decimal, rejectBoolean, hb, Bool.false_eq_true, if_false, ok_bind] at h
    obtain ⟨q, hq⟩ := value?_of_isFinite hfinite
    obtain ⟨hadmits, hordered⟩ :=
      (checkBounds_ok_iff (v := .decimal d) (quantity?_of_value hq).2).mp (bounds_of_exact h)
    rw [column_of_exact hs hk hb]
    exact ⟨fun _ _ _ => hordered ⟨d, rfl⟩, q, ⟨d, hq, hdigits⟩, hadmits⟩
  | choice s hk _ | boolean b hk | date d hk | timestamp t hk _ =>
    rw [hk]
    trivial

/-- A field takes a value exactly if it has room. -/
theorem value_iff_room (hs : f.Sound) (hf : fieldProblems f = .ok []) (hu : f.Unrestricted) :
    (∃ v x, v ≠ .null ∧ value f v = .ok x) ↔ f.HasRoom :=
  ⟨fun ⟨_, _, hv, h⟩ => room_of_value hs hv h, value_of_room hs hf hu⟩

end Rule

/-! ## Columns of decimal numbers -/

namespace Decimal

/-- A number of so many units of the last place. -/
def units (m : ℤ) (places : ℕ) : Decimal := .finite (decide (m < 0)) m.natAbs (-(places : ℤ))

theorem value?_units (m : ℤ) (places : ℕ) :
    (units m places).value? = some ((m : ℚ) / 10 ^ places) := by
  have hscaled : scaled m.natAbs (-(places : ℤ)) = |(m : ℚ)| / 10 ^ places := by
    rw [scaled, Nat.cast_natAbs, zpow_neg, zpow_natCast, div_eq_mul_inv, Int.cast_abs]
  rw [units, value?, hscaled]
  split
  · rename_i hm
    rw [abs_of_neg (by exact_mod_cast of_decide_eq_true hm), neg_div, neg_neg]
  · rename_i hm
    rw [abs_of_nonneg (by exact_mod_cast not_lt.mp (of_decide_eq_false (by simpa using hm)))]

theorem checkDigits_units {precision scale : ℕ} (hp : 0 < precision) (hs : scale ≤ precision)
    {m : ℤ} (hm : |m| < 10 ^ precision) :
    Rule.checkDigits precision scale (units m scale) = .ok () := by
  have hcount : digitCount m.natAbs ≤ precision := by
    rw [digitCount_le_iff hp]
    rw [Int.abs_eq_natAbs] at hm
    exact_mod_cast hm
  have huse : (units m scale).digitUse.1 ≤ precision ∧ (units m scale).digitUse.2 ≤ scale ∧
      (units m scale).digitUse.1 - (units m scale).digitUse.2 ≤ precision - scale := by
    simp only [units, digitUse]
    split
    · obtain rfl : scale = 0 := by omega
      simpa using hcount
    · simp only [Int.natAbs_neg, Int.natAbs_natCast]
      omega
  obtain ⟨hdigits, hplaces, hwhole⟩ := huse
  refine bind_ok.mpr ⟨(), ?_, bind_ok.mpr ⟨(), ?_, ?_⟩⟩
  · exact Ruled.require_ok.mpr (Bool.or_eq_true .. ▸ .inl (decide_eq_true hdigits))
  · exact Ruled.require_ok.mpr (Bool.or_eq_true .. ▸ .inl (decide_eq_true hplaces))
  · exact Ruled.require_ok.mpr (Bool.or_eq_true .. ▸ .inl (decide_eq_true hwhole))

end Decimal

namespace ColumnType

variable {q : ℚ}

/-- Without a precision every decimal fraction is a number of the column. -/
theorem numbers_of_places {places : ℕ} {scale : Option ℕ} (h : Decimal.Places places q) :
    (ColumnType.numeric none scale).Numbers q := by
  obtain ⟨m, hm⟩ := h
  refine ⟨Decimal.units m places, ?_, nofun⟩
  rw [Decimal.value?_units, ← hm, mul_div_cancel_right₀ _ (by positivity)]

/-- What the column holds as it is is one of its numbers. -/
theorem numbers_of_fits {precision : ℕ} {scale : Option ℕ} (hp : 0 < precision)
    (hs : scale.getD 0 ≤ precision) (h : Fits precision (scale.getD 0) q) :
    (ColumnType.numeric (some precision) scale).Numbers q := by
  obtain ⟨m, hm, rfl⟩ := h
  refine ⟨Decimal.units m (scale.getD 0), Decimal.value?_units m _, ?_⟩
  rintro p ⟨⟩
  exact Decimal.checkDigits_units hp hs hm

/-- None of the numbers of a column has too many digits before the point. -/
theorem Numbers.whole {precision : ℕ} {scale : Option ℕ} (hs : scale.getD 0 ≤ precision)
    (h : (ColumnType.numeric (some precision) scale).Numbers q) :
    |q| < 10 ^ (precision - scale.getD 0) := by
  obtain ⟨d, hd, hdigits⟩ := h
  obtain ⟨q', hq⟩ := digits_of_checkDigits (Rule.quantity?_of_value hd).1 hs (hdigits _ rfl)
  obtain rfl := Option.some.inj (hd.symm.trans hq.value)
  exact hq.whole

end ColumnType

/-! ## Payloads -/

namespace Validator

variable {d : Descriptor} {v : Validator} {f : Field}

/-- The field takes some value that is not null. -/
def Takes (v : Validator) (f : Field) : Prop :=
  ∃ x values, x ≠ .null ∧ v.check .patch (.mapping [(f.name, x)]) = .ok (.ok values)

theorem takes_iff (hd : d.Accepted) (hv : ofDescriptor d = .ok v) (hf : f ∈ d.fields) :
    v.Takes f ↔ ∃ x y, x ≠ .null ∧ Rule.value f x = .ok y := by
  refine exists_congr fun x => ⟨?_, ?_⟩
  · rintro ⟨values, hx, h⟩
    have hsingle := check_single hd hv hf x
    rw [h] at hsingle
    cases hr : Rule.value f x with
    | ok y => exact ⟨y, hx, rfl⟩
    | error stop =>
      rw [hr] at hsingle
      cases stop with
      | refused cause =>
        obtain ⟨violations, hc⟩ := hsingle
        cases hc
      | escaped escape => cases hsingle
  · rintro ⟨y, hx, h⟩
    have hsingle := check_single hd hv hf x
    rw [h] at hsingle
    obtain ⟨values, hc, -⟩ := hsingle
    exact ⟨values, hx, hc⟩

/-- A payload passes if no field is complained about and every key names one. -/
theorem check_passes {mode : PayloadMode} {entries : List (String × Value)}
    (hentries : ∀ f ∈ v.descriptor.fields,
      ∃ e, entry mode entries f = .ok e ∧ violation? f e = none)
    (hkeys : ∀ k x, (k, x) ∈ entries → k ∈ v.descriptor.fieldNames) :
    ∃ values, v.check mode (.mapping entries) = .ok (.ok values) := by
  have hcheck : v.check mode (.mapping entries) = _ := checkEntries_eq
  cases hread : v.readEntries mode entries with
  | error escape =>
    obtain ⟨f, hf, he⟩ := mapM_error hread
    obtain ⟨e, hentry, -⟩ := hentries f hf
    rw [hentry] at he
    cases he
  | ok found =>
    have hfine : found.filterMap (fun p => violation? p.1 p.2) = [] := by
      rw [List.filterMap_eq_nil_iff]
      rintro ⟨f, e⟩ hfe
      obtain ⟨hf, he⟩ := (mem_found hread).mp hfe
      obtain ⟨e', he', hnone⟩ := hentries f hf
      rw [he] at he'
      cases he'
      exact hnone
    have hstrays : strays v.descriptor entries = [] := by
      rw [strays, List.map_eq_nil_iff, List.filter_eq_nil_iff]
      rintro ⟨k, x⟩ hk
      simpa using hkeys k x hk
    rw [hread] at hcheck
    rw [hcheck]
    refine ⟨_, congrArg Except.ok (if_pos ?_)⟩
    rw [complaints, hfine, hstrays]
    rfl

/-- A value for each mandatory field, and nothing for the others. -/
def supplied (d : Descriptor) (raw : Field → Value) : List (String × Value) :=
  (d.fields.filter (·.isMandatory)).map fun f => (f.name, raw f)

section Supplied

variable {raw : Field → Value}

theorem mem_supplied {k : String} {x : Value} :
    (k, x) ∈ supplied d raw ↔ ∃ f ∈ d.fields, f.isMandatory = true ∧ f.name = k ∧ raw f = x := by
  simp [supplied, and_assoc]

theorem supplied_distinct (hd : d.Accepted) : ((supplied d raw).map (·.1)).Nodup := by
  have hkeys : (supplied d raw).map (·.1) = (d.fields.filter (·.isMandatory)).map (·.name) := by
    simp [supplied]
  rw [hkeys]
  exact hd.distinct.sublist (List.filter_sublist.map _)

theorem entry_supplied (hd : d.Accepted) (hf : f ∈ d.fields)
    (hraw : f.isMandatory = true → ∃ y, Rule.value f (raw f) = .ok y) :
    ∃ e, entry .full (supplied d raw) f = .ok e ∧ violation? f e = none := by
  by_cases hm : f.isMandatory = true
  · obtain ⟨y, hy⟩ := hraw hm
    have hmem : (f.name, raw f) ∈ supplied d raw := mem_supplied.mpr ⟨f, hf, hm, rfl, rfl⟩
    have hentry := Value.entry?_of_mem (supplied_distinct hd) hmem
    refine ⟨.stored y, ?_, rfl⟩
    simp only [entry, hentry, hy]
  · have habsent : Value.entry? (supplied d raw) f.name = none := by
      rw [Value.entry?_none_iff, List.mem_map]
      rintro ⟨⟨k, x⟩, hk, rfl⟩
      obtain ⟨g, hg, hgm, hname, -⟩ := mem_supplied.mp hk
      obtain rfl := hd.field_eq hg hf hname
      exact hm hgm
    exact ⟨.absent, by rw [entry_absent habsent, if_neg (hm ·.2)], rfl⟩

end Supplied

/-- A full payload that passes gives every mandatory field a value that is not null. -/
theorem takes_of_full (hd : d.Accepted) (hv : ofDescriptor d = .ok v) {data : Value}
    {values : FieldValues} (h : v.check .full data = .ok (.ok values)) (hf : f ∈ d.fields)
    (hm : f.isMandatory = true) : v.Takes f := by
  obtain rfl := ofDescriptor_descriptor hv
  obtain ⟨entries, rfl, hpasses⟩ := check_ok h
  obtain ⟨raw, hraw⟩ := Option.isSome_iff_exists.mp (hpasses.mandatory rfl f hf hm)
  obtain ⟨x, hx⟩ := hpasses.supplied f hf raw hraw
  refine (takes_iff hd hv hf).mpr ⟨raw, x, ?_, hx⟩
  rintro rfl
  have hrequired : f.required = true := (Bool.and_eq_true_iff.mp hm).1
  simp [Rule.value, hrequired, Ruled.refuse] at hx

/-- Some full payload passes exactly if every mandatory field takes a value. -/
theorem full_passes_iff (hd : d.Accepted) (hv : ofDescriptor d = .ok v) :
    (∃ data values, v.check .full data = .ok (.ok values)) ↔
      ∀ f ∈ d.fields, f.isMandatory = true → v.Takes f := by
  constructor
  · rintro ⟨data, values, h⟩ f hf hm
    exact takes_of_full hd hv h hf hm
  · intro h
    obtain rfl := ofDescriptor_descriptor hv
    have hvalue : ∀ f : Field, ∃ raw, f ∈ v.descriptor.fields → f.isMandatory = true →
        ∃ y, Rule.value f raw = .ok y := by
      intro f
      by_cases hf : f ∈ v.descriptor.fields ∧ f.isMandatory = true
      · obtain ⟨raw, y, -, hy⟩ := (takes_iff hd hv hf.1).mp (h f hf.1 hf.2)
        exact ⟨raw, fun _ _ => ⟨y, hy⟩⟩
      · exact ⟨.null, fun h1 h2 => absurd ⟨h1, h2⟩ hf⟩
    choose raw hraw using hvalue
    refine ⟨_, check_passes (fun f hf => entry_supplied hd hf (hraw f hf)) fun k x hk => ?_⟩
    obtain ⟨f, hf, -, rfl, -⟩ := mem_supplied.mp hk
    exact List.mem_map_of_mem hf

/-- Bounds that contradict each other are not accepted. A field that asks for nothing beyond its
kind, bounds and column takes a value exactly if these leave room for one. A full payload can pass
exactly if every mandatory field takes a value. -/
theorem satisfiable_iff (hd : d.Accepted) (hv : ofDescriptor d = .ok v) :
    (∀ f ∈ d.fields, f.rules.Uncrossed ∧ (f.Unrestricted → (v.Takes f ↔ f.HasRoom))) ∧
      ((∃ data values, v.check .full data = .ok (.ok values)) ↔
        ∀ f ∈ d.fields, f.isMandatory = true → v.Takes f) := by
  refine ⟨fun f hf => ?_, full_passes_iff hd hv⟩
  have hproblems := hd.problems.2.2 f hf
  refine ⟨uncrossed_of_boundProblems (fieldProblems_rules hproblems).1, fun hu => ?_⟩
  rw [takes_iff hd hv hf]
  exact Rule.value_iff_room (hd.sound hf) hproblems hu

end Validator

/-- An entity of codes with a least length. -/
def coded (least : ℕ) : Descriptor :=
  { name := "t", fields := [
    { name := "a", kind := .shortText, required := true, rules := { minLength := some least } }] }

theorem coded_room_iff {least : ℕ} {f : Field} (hf : f ∈ (coded least).fields) :
    f.HasRoom ↔ least ≤ 255 := by
  obtain rfl := List.mem_singleton.mp hf
  constructor
  · exact fun h => h least 255 rfl rfl
  · rintro h _ _ ⟨⟩ ⟨⟩
    exact h

/-- Codes of three characters or more are taken, and some full payload passes. -/
theorem short_codes_taken : (coded 3).Accepted ∧
    Validator.ofDescriptor (coded 3) = .ok ⟨coded 3, []⟩ ∧
    (∀ f ∈ (coded 3).fields, f.isMandatory = true ∧ f.Unrestricted ∧ f.HasRoom ∧
      Validator.Takes ⟨coded 3, []⟩ f) ∧
    ∃ data values, Validator.check ⟨coded 3, []⟩ .full data = .ok (.ok values) := by
  have hd : (coded 3).Accepted := by
    unfold Descriptor.Accepted
    rfl
  obtain ⟨hfields, hfull⟩ := Validator.satisfiable_iff hd (v := ⟨coded 3, []⟩) rfl
  have htaken : ∀ f ∈ (coded 3).fields, f.isMandatory = true ∧ f.Unrestricted ∧ f.HasRoom ∧
      Validator.Takes ⟨coded 3, []⟩ f := by
    intro f hf
    have hroom := (coded_room_iff hf).mpr (by decide)
    have hu : f.Unrestricted := by
      obtain rfl := List.mem_singleton.mp hf
      exact ⟨rfl, rfl, rfl, rfl⟩
    have hm : f.isMandatory = true := by
      obtain rfl := List.mem_singleton.mp hf
      rfl
    exact ⟨hm, hu, hroom, ((hfields f hf).2 hu).mpr hroom⟩
  exact ⟨hd, rfl, htaken, hfull.mpr fun f hf _ => (htaken f hf).2.2.2⟩

/-- Codes may be asked to be longer than their column. No value is taken then, and no full payload
passes. -/
theorem long_codes_refused : (coded 300).Accepted ∧
    Validator.ofDescriptor (coded 300) = .ok ⟨coded 300, []⟩ ∧
    (∀ f ∈ (coded 300).fields, f.Unrestricted ∧ f.required = true ∧
      ¬ Validator.Takes ⟨coded 300, []⟩ f) ∧
    ∀ data values, Validator.check ⟨coded 300, []⟩ .full data ≠ .ok (.ok values) := by
  have hd : (coded 300).Accepted := by
    unfold Descriptor.Accepted
    rfl
  have hv : Validator.ofDescriptor (coded 300) = .ok ⟨coded 300, []⟩ := rfl
  have hrefused : ∀ f ∈ (coded 300).fields, ¬ Validator.Takes ⟨coded 300, []⟩ f := by
    intro f hf ht
    obtain ⟨x, y, hx, h⟩ := (Validator.takes_iff hd hv hf).mp ht
    have hle := (coded_room_iff hf).mp (Rule.room_of_value (hd.sound hf) hx h)
    exact absurd hle (by decide)
  refine ⟨hd, hv, fun f hf => ⟨?_, ?_, hrefused f hf⟩, fun data values h => ?_⟩
  · obtain rfl := List.mem_singleton.mp hf
    exact ⟨rfl, rfl, rfl, rfl⟩
  · obtain rfl := List.mem_singleton.mp hf
    rfl
  · have hall := (Validator.full_passes_iff hd hv).mp ⟨data, values, h⟩
    exact hrefused _ (List.mem_singleton.mpr rfl) (hall _ (List.mem_singleton.mpr rfl) rfl)

end EntityStore
