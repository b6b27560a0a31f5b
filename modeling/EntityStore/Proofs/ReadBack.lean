import EntityStore.Database.Table
import EntityStore.Proofs.ColumnFit
import EntityStore.Proofs.IsoText
import EntityStore.Proofs.Nearest

/-! # Values that are read back

A value crosses three conversions on its way through a column: it is bound, the column takes it by
its affinity, and the cell is read in the type of the column. Whatever is no number comes back as it
was; a number comes back if rounding it twice, to binary and to the places of the column, finds it.
-/
namespace EntityStore

open Database

namespace Value

def isNumber : Value → Bool
  | .int _ | .float _ | .decimal _ => true
  | _ => false

/-- The binary number in which a number is laid down. -/
def nearest : Value → Binary64
  | .int n => .ofInt n
  | .float x => x
  | .decimal d => d.toBinary64
  | _ => .nan

end Value

namespace ColumnType

/-- The values that a column of a type is made for. -/
inductive Takes : ColumnType → Value → Prop where
  | null (type : ColumnType) : Takes type .null
  | text (type : ColumnType) (s : String) (affinity : Affinity.ofType type = .text) :
    Takes type (.text s)
  | integer (type : ColumnType) (n low high : ℤ) (range : type.range? = some (low, high))
    (least : low ≤ n) (most : n ≤ high) : Takes type (.int n)
  | number (type : ColumnType) (v : Value) (binary : isBinary type = true)
    (number : v.isNumber = true) : Takes type v
  | boolean (b : Bool) : Takes .boolean (.bool b)
  | date (d : Date) : Takes .date (.date d)
  | timestamp (t : Timestamp) (utc : t.offset = some 0) : Takes .timestamp (.timestamp t)

/-- The number that comes back from a column equals the one that was given. -/
def Keeps : ColumnType → Value → Prop
  | .numeric _ scale, v => v.isNumber = true →
    ∃ q, v.quantity? = some q ∧ v.nearest.rounded? (scale.getD standardScale) = some q
  | .real, v | .double, v => v.isNumber = true →
    ∃ q, v.quantity? = some q ∧ v.nearest.quantity? = some q
  | _, _ => True

/-- A number that a column is sure to keep: of at most fifteen digits, counted in the places of the
column, or binary where the column is binary. -/
def Moderate : ColumnType → Value → Prop
  | .numeric _ scale, v => scale.getD standardScale ≤ 300 ∧
    ∃ m : ℤ, |m| < 10 ^ 15 ∧ v.quantity? = some (.ratio (m / 10 ^ scale.getD standardScale))
  | .real, v | .double, v => ∃ x : Binary64, v = .float x ∧ x.isFinite = true
  | _, _ => True

end ColumnType

/-! ## Cells of numbers -/

namespace Database

theorem wholeReal_cases (x : Binary64) :
    Cell.wholeReal x = .real x ∨ ∃ n : ℤ, Cell.wholeReal x = .int n ∧ x.toRat? = some (n : ℚ) := by
  cases x with
  | infinity s => exact .inl rfl
  | nan => exact .inl rfl
  | finite s m e h =>
    obtain ⟨n, d, hr, hd, -⟩ := Binary64.ratio?_finite s m e h
    simp only [Cell.wholeReal, hr]
    split
    · rename_i hw
      refine .inr ⟨n / d, rfl, ?_⟩
      have hdvd : (d : ℤ) ∣ n := Int.dvd_of_emod_eq_zero hw.1
      have hdq : (d : ℚ) ≠ 0 := by exact_mod_cast hd.ne'
      simp only [Binary64.toRat?, hr, Option.map_some, Rat.mkRat_eq_div]
      rw [Int.cast_div hdvd (by exact_mod_cast hdq), Int.cast_natCast]
    · exact .inl rfl

theorem quantity?_of_toRat {x : Binary64} {q : ℚ} (h : x.toRat? = some q) :
    x.quantity? = some (.ratio q) := by
  cases x with
  | infinity s => cases h
  | nan => cases h
  | finite s m e hf => simp [Binary64.quantity?, h]

/-- The quantity that a cell holds. -/
def Cell.quantity? : Cell → Option Quantity
  | .int n => some (.ratio n)
  | .real x => x.quantity?
  | _ => none

theorem quantity?_wholeReal (x : Binary64) : (Cell.wholeReal x).quantity? = x.quantity? := by
  rcases wholeReal_cases x with h | ⟨n, h, hn⟩
  · rw [h]
    rfl
  · rw [h, quantity?_of_toRat hn]
    rfl

theorem reported_cases (x : Binary64) :
    Table.reported (.real x) = .real x ∨
      ∃ n : ℤ, Cell.wholeReal x = .int n ∧ Table.reported (.real x) = .int n := by
  rcases wholeReal_cases x with h | ⟨n, h, -⟩
  · exact .inl (by simp [Table.reported, h])
  · by_cases hn : Table.fitsSixBytes n = true
    · exact .inr ⟨n, h, by simp [Table.reported, h, hn]⟩
    · exact .inl (by simp [Table.reported, h, hn])

theorem quantity?_reported (x : Binary64) : (Table.reported (.real x)).quantity? = x.quantity? := by
  rcases reported_cases x with h | ⟨n, hw, h⟩
  · rw [h]
    rfl
  · rw [h, ← quantity?_wholeReal, hw]

theorem quantity?_plainValue (c : Cell) : (plainValue c).quantity? = c.quantity? := by
  cases c <;> rfl

/-! ## Numbers -/

section Numbers

variable {type : ColumnType} {v : Value} {cell : Cell}

theorem isBinary_cases (h : isBinary type = true) :
    (∃ p s, type = .numeric p s) ∨ type = .real ∨ type = .double := by
  cases type with
  | numeric p s => exact .inl ⟨p, s, rfl⟩
  | real => exact .inr (.inl rfl)
  | double => exact .inr (.inr rfl)
  | _ => cases h

theorem bind_number (ht : isBinary type = true) (hv : v.isNumber = true)
    (hb : bind type v = .ok cell) : cell = realCell v.nearest := by
  cases v with
  | int n =>
    rcases isBinary_cases ht with ⟨p, s, rfl⟩ | rfl | rfl <;>
      (simp only [bind, isBinary, if_true] at hb
       split at hb
       · cases hb
       · injection hb with hb
         exact hb.symm)
  | float x =>
    rcases isBinary_cases ht with ⟨p, s, rfl⟩ | rfl | rfl <;> (injection hb with hb; exact hb.symm)
  | decimal d =>
    rcases isBinary_cases ht with ⟨p, s, rfl⟩ | rfl | rfl <;> (injection hb with hb; exact hb.symm)
  | _ => cases hv

/-- What is read from a column of numbers with places. -/
theorem read_numeric (p s : Option ℕ) (x : Binary64) :
    ∃ y, readCell (.numeric p s) (Table.reported (Affinity.apply .numeric (realCell x))) = .ok y ∧
      (x = .nan → y = .null) ∧ y.quantity? = x.rounded? (s.getD standardScale) := by
  by_cases hx : x = .nan
  · subst hx
    exact ⟨.null, rfl, fun _ => rfl, rfl⟩
  · have hr : realCell x = .real x := by cases x <;> first | rfl | exact absurd rfl hx
    rw [hr]
    change ∃ y, readCell (.numeric p s) (Table.reported (Cell.wholeReal x)) = .ok y ∧ _
    rcases wholeReal_cases x with h | ⟨n, h, hn⟩
    · have hrep : Table.reported (.real x) = .real x := by simp [Table.reported, h]
      rw [h, hrep]
      exact ⟨fixedDecimal s x, rfl, fun hc => absurd hc hx, quantity?_fixedDecimal s x⟩
    · rw [h]
      refine ⟨fixedDecimal s (Binary64.ofInt n), rfl, fun hc => absurd hc hx, ?_⟩
      rw [quantity?_fixedDecimal, Binary64.rounded?_of_integer hn,
        Binary64.rounded?_of_integer (Binary64.ofInt_exact hn)]

/-- What is read from a column of binary numbers. -/
theorem read_real {type : ColumnType} (ht : type = .real ∨ type = .double) (x : Binary64) :
    ∃ y, readCell type (Table.reported (Affinity.apply .real (realCell x))) = .ok y ∧
      (x = .nan → y = .null) ∧ y.quantity? = x.quantity? := by
  by_cases hx : x = .nan
  · subst hx
    rcases ht with rfl | rfl <;> exact ⟨.null, rfl, fun _ => rfl, rfl⟩
  · have hr : realCell x = .real x := by cases x <;> first | rfl | exact absurd rfl hx
    obtain ⟨z, hz, hq⟩ : ∃ z, Affinity.apply .real (.real x) = .real z ∧
        z.quantity? = x.quantity? := by
      rcases wholeReal_cases x with h | ⟨n, h, hn⟩
      · exact ⟨x, by simp [Affinity.apply, Affinity.toNumber, h], rfl⟩
      · refine ⟨.ofInt n, by simp [Affinity.apply, Affinity.toNumber, h], ?_⟩
        rw [quantity?_of_toRat hn, quantity?_of_toRat (Binary64.ofInt_exact hn)]
    rw [hr, hz]
    refine ⟨plainValue (Table.reported (.real z)), ?_, fun hc => absurd hc hx, ?_⟩
    · rcases reported_cases z with h | ⟨n, -, h⟩ <;> rcases ht with rfl | rfl <;> rw [h] <;> rfl
    · rw [quantity?_plainValue, quantity?_reported, hq]

/-- A number has no quantity only if it is laid down as no number. -/
theorem nearest_of_quantity (hv : v.isNumber = true) (hq : v.quantity? = none) :
    v.nearest = .nan := by
  cases v with
  | int n => cases hq
  | float x =>
    cases x with
    | finite s m e h => simp [Value.quantity?, Binary64.quantity?_finite] at hq
    | infinity s => cases hq
    | nan => rfl
  | decimal d =>
    cases d with
    | finite s c e => cases hq
    | infinity s => cases hq
    | nan q s p => rfl
  | _ => cases hv

theorem same_number_iff {y : Value} {r : Option Quantity} (hv : v.isNumber = true)
    (hn : v.nearest = .nan → y = .null) (hy : y.quantity? = r) :
    Value.Same y v ↔ ∃ q, v.quantity? = some q ∧ r = some q := by
  cases hq : v.quantity? with
  | some q =>
    have hs : Value.Same y v ↔ y.quantity? = some q :=
      ⟨fun h => (Value.same_iff_of_quantity hq).mp h.symm,
        fun h => ((Value.same_iff_of_quantity hq).mpr h).symm⟩
    simp [hs, hy]
  | none =>
    have hnull := hn (nearest_of_quantity hv hq)
    subst hnull
    simp only [reduceCtorEq, false_and, exists_false, iff_false]
    intro hs
    cases hs with
    | refl => cases hv
    | number q hl _ => cases hl

end Numbers

/-! ## All values -/

section Values

variable {type : ColumnType} {v : Value} {cell : Cell}

theorem textual_cases (h : Affinity.ofType type = .text) :
    (∃ n, type = .varchar n) ∨ type = .text := by
  cases type with
  | varchar n => exact .inl ⟨n, rfl⟩
  | text => exact .inr rfl
  | _ => cases h

theorem integral_cases {r : ℤ × ℤ} (h : type.range? = some r) :
    type = .integer ∨ type = .bigint ∨ type = .smallint := by
  cases type with
  | integer => exact .inl rfl
  | bigint => exact .inr (.inl rfl)
  | smallint => exact .inr (.inr rfl)
  | _ => cases h

theorem bind_integer {n low high : ℤ} (hr : type.range? = some (low, high))
    (hb : bind type (.int n) = .ok cell) : cell = .int n := by
  rcases integral_cases hr with rfl | rfl | rfl <;>
    (simp only [bind, isBinary, Bool.false_eq_true, if_false, intCell] at hb
     split at hb
     · injection hb with hb
       exact hb.symm
     · cases hb)

/-- A text that spells no number is left as it is. -/
theorem apply_numeric_text {s : String} (h : Cell.numberOfText? s = none) :
    Affinity.apply .numeric (.text s) = .text s := by
  simp [Affinity.apply, Affinity.toNumber, h]

theorem readCell_utc {t : Timestamp} (hu : t.offset = some 0) :
    readCell .timestamp (timestampCell t) = .ok (.timestamp t) := by
  obtain ⟨s, hs, hm⟩ := timestamp?_timestampCell t
  simp only [hs, readCell, hm, Option.bind_some, Timestamp.toUtc?]
  cases t
  simp_all

theorem read_timestampCell {t : Timestamp} (hu : t.offset = some 0) :
    readCell .timestamp (Table.reported (Affinity.apply .numeric (timestampCell t))) =
      .ok (.timestamp t) := by
  obtain ⟨s, hs, hn⟩ := numberOfText?_timestampCell t
  have hkept : Table.reported (Affinity.apply .numeric (timestampCell t)) = timestampCell t := by
    rw [hs, apply_numeric_text hn]
    rfl
  rw [hkept, readCell_utc hu]

/-- A column that does not round keeps the cell of a value, tells it at once as it is, and has the
value read from it. -/
theorem settled_of_takes (ht : type.Takes v) (hb : bind type v = .ok cell)
    (hn : isBinary type = false) : (Affinity.ofType type).apply cell = cell ∧
      Table.reported cell = cell ∧ readCell type cell = .ok v := by
  cases ht with
  | null =>
    have hc : cell = .null := by
      cases type <;> (injection hb with hb; exact hb.symm)
    subst hc
    cases type <;> exact ⟨rfl, rfl, rfl⟩
  | text _ s ha =>
    rcases textual_cases ha with ⟨n, rfl⟩ | rfl <;>
      (injection hb with hb
       subst hb
       exact ⟨rfl, rfl, rfl⟩)
  | integer _ n low high hr =>
    obtain rfl := bind_integer hr hb
    rcases integral_cases hr with rfl | rfl | rfl <;> exact ⟨rfl, rfl, rfl⟩
  | number _ _ hi =>
    rw [hn] at hi
    cases hi
  | boolean b =>
    injection hb with hb
    subst hb
    cases b <;> exact ⟨rfl, rfl, rfl⟩
  | date d =>
    injection hb with hb
    subst hb
    exact ⟨apply_numeric_text (numberOfText?_dateText d), rfl, by simp [readCell, Iso.date?_dateText]⟩
  | timestamp t hu =>
    injection hb with hb
    subst hb
    obtain ⟨s, hs, hnum⟩ := numberOfText?_timestampCell t
    have hread := readCell_utc hu
    rw [hs] at hread ⊢
    exact ⟨apply_numeric_text hnum, rfl, hread⟩

/-- A column that rounds takes numbers, besides null. -/
theorem isNumber_of_takes (ht : type.Takes v) (hn : isBinary type = true) :
    v = .null ∨ v.isNumber = true := by
  cases ht with
  | null => exact .inl rfl
  | text _ s ha => rcases textual_cases ha with ⟨n, rfl⟩ | rfl <;> cases hn
  | integer => exact .inr rfl
  | number _ _ _ hv => exact .inr hv
  | _ => cases hn

theorem keeps_of_settled (hn : isBinary type = false) (v : Value) : type.Keeps v := by
  cases type with
  | numeric | real | double => cases hn
  | _ => trivial

/-- A value that a column takes is read back, unchanged unless it is a number. -/
theorem read_back (ht : type.Takes v) (hb : bind type v = .ok cell) :
    ∃ y, readCell type (Table.reported ((Affinity.ofType type).apply cell)) = .ok y ∧
      (Value.Same y v ↔ type.Keeps v) := by
  cases hn : isBinary type with
  | false =>
    obtain ⟨hkept, htold, hread⟩ := settled_of_takes ht hb hn
    exact ⟨v, by rw [hkept, htold, hread], iff_of_true (.refl v) (keeps_of_settled hn v)⟩
  | true =>
    rcases isNumber_of_takes ht hn with rfl | hv
    · have hc : cell = .null := by
        cases type <;> (injection hb with hb; exact hb.symm)
      subst hc
      refine ⟨.null, by cases type <;> rfl, ?_⟩
      cases type <;> simp [ColumnType.Keeps, Value.isNumber, Value.Same.refl]
    · obtain rfl := bind_number hn hv hb
      rcases isBinary_cases hn with ⟨p, s, rfl⟩ | ht
      · obtain ⟨y, hy, hnan, hq⟩ := read_numeric p s v.nearest
        refine ⟨y, hy, ?_⟩
        rw [same_number_iff hv hnan hq]
        simp [ColumnType.Keeps, hv]
      · obtain ⟨y, hy, hnan, hq⟩ := read_real ht v.nearest
        refine ⟨y, ?_, ?_⟩
        · rcases ht with rfl | rfl <;> exact hy
        · rw [same_number_iff hv hnan hq]
          rcases ht with rfl | rfl <;> simp [ColumnType.Keeps, hv]

/-! ## Numbers of few digits -/

/-- A binary number has the sign of another number, and is near to it in proportion. -/
def NearTo (x : Binary64) (q : ℚ) : Prop :=
  ∃ s m e h, x = .finite s m e h ∧ q = (if s then -|q| else |q|) ∧
    |Binary64.dyadic m e - abs q| ≤ |q| / 2 ^ 53

theorem signedZero_near (s : Bool) : NearTo (Binary64.signedZero s) 0 :=
  ⟨s, 0, Binary64.minExponent, by decide, rfl, by simp, by simp [Binary64.dyadic]⟩

theorem ofInt_near {n : ℤ} (hn : n ≠ 0) (hl : (2 : ℚ) ^ (-1022 : ℤ) ≤ |(n : ℚ)|)
    (hh : |(n : ℚ)| < 2 ^ (1023 : ℤ)) : NearTo (Binary64.ofInt n) n := by
  have habs : ((n.natAbs : ℕ) : ℚ) / (1 : ℕ) = |(n : ℚ)| := by
    rw [Nat.cast_natAbs, Int.cast_abs, Nat.cast_one, div_one]
  obtain ⟨m, e, h, ho, hd⟩ := Binary64.ofRatio_near (decide (n < 0))
    (Int.natAbs_pos.mpr hn) Nat.one_pos (by rwa [habs]) (by rwa [habs])
  rw [habs] at hd
  refine ⟨_, m, e, h, ho, ?_, hd⟩
  rcases lt_or_gt_of_ne hn with hneg | hpos
  · have hq : (n : ℚ) < 0 := by exact_mod_cast hneg
    simp [hneg, abs_of_neg hq]
  · have hq : (0 : ℚ) < n := by exact_mod_cast hpos
    simp [hpos.not_gt, abs_of_pos hq]

theorem ofScaled_nearTo {s : Bool} {c : ℕ} {e : ℤ} {q : ℚ}
    (hq : (Decimal.finite s c e).value? = some q)
    (hb : q = 0 ∨ (2 : ℚ) ^ (-1022 : ℤ) ≤ |q| ∧ |q| < 2 ^ (1023 : ℤ)) :
    NearTo (Binary64.ofScaled s c e) q := by
  have habs := abs_value hq
  rcases hb with rfl | ⟨hl, hh⟩
  · have hc : c = 0 := by
      have : Decimal.scaled c e = 0 := by rw [← habs, abs_zero]
      simpa [Decimal.scaled, zpow_ne_zero] using this
    rw [hc]
    exact signedZero_near s
  · obtain ⟨m, e', h, ho, hd⟩ := Binary64.ofScaled_near s (by rwa [← habs]) (by rwa [← habs])
    refine ⟨s, m, e', h, ho, ?_, by rw [habs]; exact hd⟩
    rw [habs]
    injection hq with hq
    exact hq.symm

/-- A number of moderate size is laid down as a number that is near to it. -/
theorem nearest_near {q : ℚ} (hv : v.quantity? = some (.ratio q))
    (hb : q = 0 ∨ (2 : ℚ) ^ (-1022 : ℤ) ≤ |q| ∧ |q| < 2 ^ (1023 : ℤ)) : NearTo v.nearest q := by
  cases v with
  | int n =>
    injection hv with hv
    injection hv with hv
    subst hv
    rcases eq_or_ne n 0 with rfl | hn
    · rw [Int.cast_zero]
      exact signedZero_near false
    · obtain ⟨hl, hh⟩ := hb.resolve_left (by exact_mod_cast hn)
      exact ofInt_near hn hl hh
  | float x =>
    cases x with
    | finite s m e h =>
      rw [Value.quantity?, Binary64.quantity?_finite, Option.some.injEq, Quantity.ratio.injEq] at hv
      have hd := Binary64.dyadic_nonneg m e
      have habs : |q| = Binary64.dyadic m e := by
        rw [← hv]
        cases s <;> simp [abs_of_nonneg hd]
      exact ⟨s, m, e, h, rfl, by rw [habs, hv], by rw [habs, sub_self, abs_zero]; positivity⟩
    | infinity s => cases hv
    | nan => cases hv
  | decimal d =>
    cases d with
    | finite s c e =>
      refine ofScaled_nearTo ?_ hb
      injection hv with hv
      injection hv with hv
      rw [← hv]
      rfl
    | infinity s => cases hv
    | nan q s p => cases hv
  | _ => cases hv

theorem abs_units (m : ℤ) (places : ℕ) :
    |(m : ℚ) / 10 ^ places| * 10 ^ places = (m.natAbs : ℕ) := by
  have hten : (0 : ℚ) < 10 ^ places := by positivity
  rw [abs_div, abs_of_pos hten, div_mul_cancel₀ _ hten.ne', Nat.cast_natAbs, Int.cast_abs]

/-- A number of at most fifteen digits in some places is of the size of normal binary numbers. -/
theorem units_bounds {m : ℤ} {places : ℕ} (hs : places ≤ 300) (hm : |m| < 10 ^ 15) :
    (m : ℚ) / 10 ^ places = 0 ∨ (2 : ℚ) ^ (-1022 : ℤ) ≤ |(m : ℚ) / 10 ^ places| ∧
      |(m : ℚ) / 10 ^ places| < 2 ^ (1023 : ℤ) := by
  have hten : (0 : ℚ) < 10 ^ places := by positivity
  have hq := abs_units m places
  rcases eq_or_ne m 0 with rfl | hne
  · exact .inl (by simp)
  · have hone : (1 : ℚ) ≤ (m.natAbs : ℕ) := by
      exact_mod_cast Int.natAbs_pos.mpr hne
    have hpow : (10 : ℚ) ^ places ≤ 2 ^ 1000 := by
      calc (10 : ℚ) ^ places ≤ 10 ^ (3 * 100) := pow_le_pow_right₀ (by norm_num) hs
        _ = (10 ^ 3) ^ 100 := pow_mul 10 3 100
        _ ≤ (2 ^ 10) ^ 100 := pow_le_pow_left₀ (by norm_num) (by norm_num) _
        _ = 2 ^ 1000 := (pow_mul 2 10 100).symm
    refine .inr ⟨?_, ?_⟩
    · calc (2 : ℚ) ^ (-1022 : ℤ) ≤ 2 ^ (-(1000 : ℕ) : ℤ) :=
            zpow_le_zpow_right₀ (by norm_num) (by norm_num)
        _ = (2 ^ 1000)⁻¹ := by rw [zpow_neg, zpow_natCast]
        _ ≤ (10 ^ places)⁻¹ := inv_anti₀ hten hpow
        _ ≤ |(m : ℚ) / 10 ^ places| := by
            rw [← mul_le_mul_iff_left₀ hten, inv_mul_cancel₀ hten.ne', hq]
            exact hone
    · calc |(m : ℚ) / 10 ^ places| ≤ (m.natAbs : ℕ) := by
            rw [← hq]
            exact le_mul_of_one_le_right (abs_nonneg _) (one_le_pow₀ (by norm_num))
        _ < 10 ^ 15 := by
            rw [Nat.cast_natAbs]
            exact_mod_cast hm
        _ ≤ 2 ^ (50 : ℤ) := by norm_num
        _ ≤ 2 ^ (1023 : ℤ) := zpow_le_zpow_right₀ (by norm_num) (by norm_num)

/-- A number of at most fifteen digits in the places of its column is kept. -/
theorem keeps_of_units {p scale : Option ℕ} {m : ℤ} (hs : scale.getD standardScale ≤ 300)
    (hv : v.quantity? = some (.ratio (m / 10 ^ scale.getD standardScale)))
    (hm : |m| < 10 ^ 15) : (ColumnType.numeric p scale).Keeps v := by
  intro _
  set places := scale.getD standardScale
  refine ⟨_, hv, ?_⟩
  have hten : (0 : ℚ) < 10 ^ places := by positivity
  have hq := abs_units m places
  have hmq : ((m.natAbs : ℕ) : ℚ) < 10 ^ 15 := by
    rw [Nat.cast_natAbs]
    exact_mod_cast hm
  obtain ⟨s, k, e, h, hn, hsign, hd⟩ := nearest_near hv (units_bounds hs hm)
  have hu : Binary64.fixedUnits places k e = m.natAbs := by
    apply Binary64.fixedUnits_of_near
    calc |Binary64.dyadic k e * 10 ^ places - (m.natAbs : ℕ)|
        = |Binary64.dyadic k e - abs ((m : ℚ) / 10 ^ places)| * 10 ^ places := by
          rw [← hq, ← sub_mul, abs_mul, abs_of_pos hten]
      _ ≤ |(m : ℚ) / 10 ^ places| / 2 ^ 53 * 10 ^ places :=
          mul_le_mul_of_nonneg_right hd hten.le
      _ = (m.natAbs : ℕ) / 2 ^ 53 := by rw [div_mul_eq_mul_div, hq]
      _ < 1 / 2 := by linarith
  have hv' : Decimal.scaled m.natAbs (-(places : ℤ)) = |(m : ℚ) / 10 ^ places| := by
    rw [Decimal.scaled, zpow_neg, zpow_natCast, ← hq, mul_inv_cancel_right₀ hten.ne']
  rw [hn, Binary64.rounded?, hu, hv']
  simp only [← hsign]

theorem keeps_of_moderate (h : type.Moderate v) : type.Keeps v := by
  have hreal : ∀ x : Binary64, x.isFinite = true →
      ∃ q, x.quantity? = some q ∧ x.quantity? = some q := by
    intro x hx
    cases x with
    | finite s m e hn =>
      have hq := Binary64.quantity?_finite s m e hn
      exact ⟨_, hq, hq⟩
    | _ => cases hx
  cases type with
  | numeric p scale =>
    obtain ⟨hs, m, hm, hv⟩ := h
    exact keeps_of_units hs hv hm
  | real =>
    obtain ⟨x, rfl, hx⟩ := h
    exact fun _ => hreal x hx
  | double =>
    obtain ⟨x, rfl, hx⟩ := h
    exact fun _ => hreal x hx
  | _ => trivial

end Values

/-! ## What is reported and what is kept -/

theorem wholeReal_of_toNumber {c : Cell} {x : Binary64} (h : Affinity.toNumber c = .real x) :
    Cell.wholeReal x = .real x := by
  have hw : ∀ y, Cell.wholeReal y = .real x → Cell.wholeReal x = .real x := by
    intro y hy
    rcases wholeReal_cases y with h | ⟨n, h, -⟩
    · rw [h] at hy
      injection hy with hy
      rwa [hy] at h
    · rw [h] at hy
      cases hy
  unfold Affinity.toNumber at h
  split at h
  · split at h
    · exact hw _ h
    · rename_i hne _
      exact absurd h (by rintro rfl; exact hne _ rfl)
    · cases h
  · exact hw _ h
  · rename_i hne
    exact absurd h (hne x)

/-- What a column reports of a cell at once is the same value as the one that is read later. -/
theorem read_reported {type : ColumnType} {c given : Cell} {x : Value}
    (hc : c = (Affinity.ofType type).apply given) (hx : readCell type c = .ok x) :
    ∃ y, readCell type (Table.reported c) = .ok y ∧ Value.Same x y := by
  cases c with
  | real z =>
    rcases reported_cases z with h | ⟨n, hw, h⟩
    · exact ⟨x, by rw [h]; exact hx, .refl x⟩
    · rw [h]
      cases ha : Affinity.ofType type with
      | text =>
        rw [ha] at hc
        cases given <;> cases hc
      | numeric =>
        rw [ha] at hc
        have := wholeReal_of_toNumber hc.symm
        rw [hw] at this
        cases this
      | real =>
        have ht : type = .real ∨ type = .double := by
          cases type with
          | real => exact .inl rfl
          | double => exact .inr rfl
          | _ => cases ha
        have hq : (Value.float z).quantity? = some (.ratio n) := by
          have := quantity?_wholeReal z
          rw [hw] at this
          exact this.symm
        rcases ht with rfl | rfl
        · injection hx with hx
          subst hx
          exact ⟨.int n, rfl, .number _ hq rfl⟩
        · injection hx with hx
          subst hx
          exact ⟨.int n, rfl, .number _ hq rfl⟩
  | null => exact ⟨x, hx, .refl x⟩
  | int n => exact ⟨x, hx, .refl x⟩
  | text s => exact ⟨x, hx, .refl x⟩

end Database

end EntityStore
