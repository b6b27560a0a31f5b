import EntityStore.Proofs.CellOrder
import EntityStore.Proofs.RoundTrip
import EntityStore.Proofs.Sources

/-! # What filters mean

A filter value is brought into the form in which its column would store it, and a row meets the
filter if it holds an equal cell there. The conditions that a reading makes of its filters say just
that.
-/
namespace EntityStore

open Database

/-! ## Normal forms -/

/-- The moment that a value is or spells. -/
def Value.moment? : Value → Option Timestamp
  | .text s => Iso.timestamp? s
  | .timestamp t => some t
  | _ => none

/-- The form into which a filter value is brought for a column of a name. -/
inductive Descriptor.Normal (d : Descriptor) (name : String) (v : Value) : Value → Prop where
  | id (k : String) (column : name = "id") (text : v.idText? = some k) : d.Normal name v (.text k)
  | moment (t u : Timestamp) (column : name = "created_at" ∨ name = "updated_at")
    (read : v.moment? = some t) (utc : t.toUtc? = some u) : d.Normal name v (.timestamp u)
  | field (f : Field) (member : f ∈ d.fields) (column : f.name = name) (x : Value)
    (passes : Rule.value f v = .ok x) : d.Normal name v x

/-- A row holds what a filter asks for: nothing where the filter asks for null, else a cell that
equals the one in which the normal form would be stored. -/
def Descriptor.Meets (d : Descriptor) (row : Row) (filter : String × Value) : Prop :=
  ∃ c cell, (c, cell) ∈ (TableSchema.ofDescriptor d).columns.zip row ∧ c.name = filter.1 ∧
    (filter.2 = .null ∧ cell = .null ∨
      filter.2 ≠ .null ∧ ∃ x, d.Normal filter.1 filter.2 x ∧ cell.equals (c.stored x) = true)

/-- Filters on columns of the entity, by values whose normal form does not end in a failure. -/
structure Descriptor.Understands (d : Descriptor) (filters : List (String × Value)) : Prop where
  known : ∀ p ∈ filters, p.1 ∈ d.columnNames
  normal : ∀ p ∈ filters, p.2 ≠ .null → ∃ found, Store.sought d p.1 p.2 = .ok found

/-- A filter by one value. -/
theorem Descriptor.understands_single {d : Descriptor} {name : String} {v : Value}
    (hn : name ∈ d.columnNames) (hv : v ≠ .null → ∃ found, Store.sought d name v = .ok found) :
    d.Understands [(name, v)] := by
  refine ⟨fun p hp => ?_, fun p hp => ?_⟩ <;> rw [List.mem_singleton.mp hp]
  · exact hn
  · exact hv

theorem Value.isNull_of_ne {v : Value} (h : v ≠ .null) : v.isNull = false := by
  cases v <;> first | rfl | exact absurd rfl h

theorem Descriptor.column_of_name {d : Descriptor} {name : String} (h : name ∈ d.columnNames) :
    name = "id" ∨ (name = "created_at" ∨ name = "updated_at") ∨ ∃ f ∈ d.fields, f.name = name := by
  rcases List.mem_append.mp h with h | h
  · simp only [implicitColumns, List.mem_cons, List.not_mem_nil, or_false] at h
    tauto
  · exact .inr (.inr (List.mem_map.mp h))

section Normal

variable {d : Descriptor} {name : String} {v x : Value}

theorem Field.name_ne {f : Field} (hd : d.Accepted) (hf : f ∈ d.fields) :
    f.name ≠ "id" ∧ ¬ (f.name = "created_at" ∨ f.name = "updated_at") := by
  have hn := (hd.sound hf).notImplicit
  simpa [implicitColumns] using hn

namespace Descriptor.Normal

theorem id_iff (hd : d.Accepted) : d.Normal "id" v x ↔ ∃ k, v.idText? = some k ∧ x = .text k := by
  constructor
  · rintro (⟨k, -, ht⟩ | ⟨t, u, hc, -⟩ | ⟨f, hf, hc, x, -⟩)
    · exact ⟨k, ht, rfl⟩
    · exact absurd hc (by decide)
    · exact absurd hc (Field.name_ne hd hf).1
  · rintro ⟨k, ht, rfl⟩
    exact .id k rfl ht

theorem moment_iff (hd : d.Accepted) (hn : name = "created_at" ∨ name = "updated_at") :
    d.Normal name v x ↔
      ∃ t u : Timestamp, v.moment? = some t ∧ t.toUtc? = some u ∧ x = .timestamp u := by
  constructor
  · rintro (⟨k, hc, -⟩ | ⟨t, u, -, ht, hu⟩ | ⟨f, hf, hc, x, -⟩)
    · subst hc
      exact absurd hn (by decide)
    · exact ⟨t, u, ht, hu, rfl⟩
    · subst hc
      exact absurd hn (Field.name_ne hd hf).2
  · rintro ⟨t, u, ht, hu, rfl⟩
    exact .moment t u hn ht hu

theorem field_iff (hd : d.Accepted) {f : Field} (hf : f ∈ d.fields) :
    d.Normal f.name v x ↔ Rule.value f v = .ok x := by
  constructor
  · rintro (⟨k, hc, -⟩ | ⟨t, u, hc, -⟩ | ⟨g, hg, hc, x, hx⟩)
    · exact absurd hc (Field.name_ne hd hf).1
    · exact absurd hc (Field.name_ne hd hf).2
    · obtain rfl := hd.field_eq hg hf hc
      exact hx
  · exact .field f hf rfl x

end Descriptor.Normal

namespace Store

variable {found : Sought}

theorem soughtTime_eq (v : Value) : soughtTime v =
    match v.moment? with
    | none => .ok .impossible
    | some t =>
      match t.toUtc? with
      | some utc => .ok (.value (.timestamp utc))
      | none => .error Clock.beyondCalendar := by
  cases v <;> rfl

theorem soughtTime_iff (h : soughtTime v = .ok found) : found = .value x ↔
    ∃ t u : Timestamp, v.moment? = some t ∧ t.toUtc? = some u ∧ x = .timestamp u := by
  rw [soughtTime_eq] at h
  cases ht : v.moment? with
  | none =>
    rw [ht] at h
    cases h
    simp
  | some t =>
    rw [ht] at h
    cases hu : t.toUtc? with
    | none => simp [hu] at h
    | some u =>
      simp only [hu] at h
      cases h
      simp [hu, eq_comm]

/-- What is sought is the normal form, if the value has one. -/
theorem sought_iff (hd : d.Accepted) (hn : name ∈ d.columnNames) (h : sought d name v = .ok found) :
    found = .value x ↔ d.Normal name v x := by
  rcases Descriptor.column_of_name hn with rfl | ht | ⟨f, hf, rfl⟩
  · rw [Descriptor.Normal.id_iff hd]
    cases hk : v.idText? with
    | none =>
      simp only [sought, hk, if_true] at h
      cases h
      simp
    | some k =>
      simp only [sought, hk, if_true] at h
      cases h
      simp [eq_comm]
  · have hid : name ≠ "id" := by
      rcases ht with rfl | rfl <;> decide
    rw [sought, if_neg hid, if_pos ht] at h
    rw [Descriptor.Normal.moment_iff hd ht, soughtTime_iff h]
  · obtain ⟨hid, ht⟩ := Field.name_ne hd hf
    rw [sought, if_neg hid, if_neg ht] at h
    obtain ⟨validator, hv, h⟩ := bind_ok.mp h
    obtain ⟨checked, hc, h⟩ := bind_ok.mp h
    have hone := Validator.check_single hd (mapError_ok.mp hv) hf v
    have hc := mapError_ok.mp hc
    rw [Descriptor.Normal.field_iff hd hf]
    cases hr : Rule.value f v with
    | ok y =>
      rw [hr] at hone
      obtain ⟨values, hvalues, hl⟩ := hone
      rw [hvalues] at hc
      cases hc
      simp only [hl] at h
      cases h
      simp
    | error stop =>
      rw [hr] at hone
      cases stop with
      | refused cause =>
        obtain ⟨violations, hviolations⟩ := hone
        rw [hviolations] at hc
        cases hc
        cases h
        simp
      | escaped escape =>
        rw [hone] at hc
        cases hc

theorem sought_of_normal (hd : d.Accepted) (hv : ∃ validator, Validator.ofDescriptor d = .ok validator)
    (h : d.Normal name v x) : sought d name v = .ok (.value x) := by
  cases h with
  | id k hn ht => simp only [sought, hn, ht, if_true]
  | moment t u hn ht hu =>
    have hid : name ≠ "id" := by
      rcases hn with rfl | rfl <;> decide
    simp only [sought, if_neg hid, if_pos hn, soughtTime_eq, ht, hu]
  | field f hf hn _ hr =>
    subst hn
    obtain ⟨validator, hv⟩ := hv
    obtain ⟨hid, ht⟩ := Field.name_ne hd hf
    have hone := Validator.check_single hd hv hf v
    rw [hr] at hone
    obtain ⟨values, hc, hl⟩ := hone
    simp only [sought, if_neg hid, if_neg ht, hv, hc, Except.mapError, ok_bind, hl]
    rfl

end Store

/-- A normal form is a value that its column takes and that can be laid down there. -/
theorem Descriptor.Normal.takes (hd : d.Accepted) {c : Column}
    (hc : c ∈ (TableSchema.ofDescriptor d).columns) (h : d.Normal c.name v x) :
    c.type.Takes x ∧ ∃ cell, Database.bind c.type x = .ok cell := by
  rcases column_cases hc with rfl | rfl | rfl | ⟨f, hf, rfl⟩
  · obtain ⟨k, -, rfl⟩ := (Descriptor.Normal.id_iff hd).mp h
    exact ⟨.text _ k rfl, _, rfl⟩
  · obtain ⟨t, u, -, hu, rfl⟩ := (Descriptor.Normal.moment_iff hd (.inl rfl)).mp h
    exact ⟨.timestamp u (Timestamp.toUtc?_offset hu), _, rfl⟩
  · obtain ⟨t, u, -, hu, rfl⟩ := (Descriptor.Normal.moment_iff hd (.inr rfl)).mp h
    exact ⟨.timestamp u (Timestamp.toUtc?_offset hu), _, rfl⟩
  · have hr := (Descriptor.Normal.field_iff hd hf).mp h
    have hs := hd.sound hf
    exact ⟨Field.takes_of_value hs hr, (Field.accepts_value hs hr).1⟩

end Normal

/-! ## Operands

A condition compares a column with a cell that is converted a little less than a stored one is; both
have one rank.
-/

namespace Database

theorem Cell.level_magnitude {x : Binary64} {q : ℚ} (h : x.toRat? = some q) :
    (Cell.magnitude x).level = ((q : WithTop ℚ) : Level) := by
  cases x with
  | infinity s => cases h
  | nan => cases h
  | finite s m e hf =>
    obtain ⟨n, k, hr, -, -⟩ := Binary64.ratio?_finite s m e hf
    simp only [Binary64.toRat?, hr, Option.map_some, Option.some.injEq, Rat.mkRat_eq_div] at h
    simp only [Cell.magnitude, hr, Cell.Magnitude.level, h]

/-- The place of a number among the cells. -/
theorem Cell.rank_real {x : Binary64} {n : ℤ} (h : x.toRat? = some (n : ℚ)) :
    (Cell.real x).rank = (Cell.int n).rank := by
  have hn : (Cell.Magnitude.ratio n 1).level = (((n : ℚ) : WithTop ℚ) : Level) := by
    simp [Cell.Magnitude.level]
  rw [Cell.rank, Cell.rank, Cell.level_magnitude h, hn]

theorem Cell.rank_wholeReal (x : Binary64) : (Cell.wholeReal x).rank = (Cell.real x).rank := by
  rcases wholeReal_cases x with h | ⟨n, h, hn⟩
  · rw [h]
  · rw [h, Cell.rank_real hn]

theorem Cell.rank_applied (x : Binary64) :
    (Affinity.apply .real (.real x)).rank = (Cell.real x).rank := by
  rcases wholeReal_cases x with h | ⟨n, h, hn⟩
  · simp [Affinity.apply, Affinity.toNumber, h]
  · simp only [Affinity.apply, Affinity.toNumber, h]
    rw [Cell.rank_real (Binary64.ofInt_exact hn), Cell.rank_real hn]

theorem rank_operand {type : ColumnType} {v : Value} {cell : Cell} (ht : type.Takes v)
    (hb : Database.bind type v = .ok cell) :
    ((Affinity.ofType type).applyToOperand cell).rank = ((Affinity.ofType type).apply cell).rank := by
  cases ha : Affinity.ofType type with
  | text => rfl
  | numeric =>
    cases cell with
    | real x => exact (Cell.rank_wholeReal x).symm
    | _ => rfl
  | real =>
    have hreal : type = .real ∨ type = .double := by
      cases type <;> first | exact .inl rfl | exact .inr rfl | cases ha
    have hbinary : isBinary type = true := by
      rcases hreal with rfl | rfl <;> rfl
    cases ht with
    | null =>
      have hn : cell = .null := by
        rcases hreal with rfl | rfl <;> (injection hb with hb; exact hb.symm)
      rw [hn]
      rfl
    | number _ _ hi hv =>
      rw [bind_number hi hv hb]
      cases v.nearest <;> first | rfl | exact (Cell.rank_applied _).symm
    | text _ s h =>
      rw [ha] at h
      cases h
    | integer _ n low high hr =>
      rcases hreal with rfl | rfl <;> cases hr
    | boolean b => rcases hreal with h | h <;> cases h
    | date d => rcases hreal with h | h <;> cases h
    | timestamp t hu => rcases hreal with h | h <;> cases h

/-- Cells of one rank equal the same cells. -/
theorem Cell.equals_congr {a b c : Cell} (h : b.rank = c.rank) : a.equals b = a.equals c := by
  have hnull : ∀ x : Cell, x.isNull = false ↔ x.rank ≠ ⊥ := by
    intro x
    cases x <;> simp [Cell.isNull, Cell.rank]
  rw [Bool.eq_iff_iff, Cell.equals_iff, Cell.equals_iff, hnull b, hnull c, h]

end Database

/-! ## Conditions -/

section Conditions

variable {d : Descriptor} {tbl : Table}

theorem Store.column_known (hd : d.Accepted) {c : Column}
    (hc : c ∈ (TableSchema.ofDescriptor d).columns) :
    Store.column (.ofDescriptor d) (.text c.name) = .ok c := by
  have hnames : ((TableSchema.ofDescriptor d).columns.map (·.name)).Nodup := hd.schema_distinct
  have hsome : ((TableSchema.ofDescriptor d).column? c.name).isSome = true := by
    rw [TableSchema.column?, List.find?_isSome]
    exact ⟨c, hc, by simp⟩
  obtain ⟨c', hc'⟩ := Option.isSome_iff_exists.mp hsome
  have hname : c'.name = c.name := by simpa using List.find?_some hc'
  obtain rfl := List.inj_on_of_nodup_map hnames (List.mem_of_find?_eq_some hc') hc hname
  simp only [Store.column, hc']

/-- What a condition that was made of a filter asks of rows: as much as the filter. -/
structure Descriptor.Reads (d : Descriptor) (tbl : Table) (filter : String × Value)
    (condition : Condition) : Prop where
  column : tbl.hasColumn condition.column = true
  rows : ∀ row : Row, row.length = (TableSchema.ofDescriptor d).columns.length →
    (tbl.meets row condition = true ↔ d.Meets row filter)

theorem Descriptor.meets_iff (hd : d.Accepted) (hm : (TableSchema.ofDescriptor d).Makes tbl)
    {c : Column} (hc : c ∈ (TableSchema.ofDescriptor d).columns) {row : Row}
    (hw : row.length = (TableSchema.ofDescriptor d).columns.length) {v : Value} :
    d.Meets row (c.name, v) ↔ v = .null ∧ tbl.cell row (denoted c.name) = .null ∨
      v ≠ .null ∧ ∃ x, d.Normal c.name v x ∧
        (tbl.cell row (denoted c.name)).equals (c.stored x) = true := by
  constructor
  · rintro ⟨c', cell, hp, hn, h⟩
    obtain ⟨hc', rfl⟩ := (Table.mem_zip_iff hm.1 hm.2 hw).mp hp
    obtain rfl : c' = c := by
      have h' := Store.column_known hd hc'
      rw [hn, Store.column_known hd hc] at h'
      cases h'
      rfl
    exact h
  · intro h
    exact ⟨c, _, (Table.mem_zip_iff hm.1 hm.2 hw).mpr ⟨hc, rfl⟩, rfl, h⟩

section Reads

variable {c : Column} {v x : Value}

/-- Where a filter asks for nothing. -/
theorem Descriptor.reads_null (hd : d.Accepted) (hm : (TableSchema.ofDescriptor d).Makes tbl)
    (hc : c ∈ (TableSchema.ofDescriptor d).columns) :
    d.Reads tbl (c.name, .null) ⟨denoted c.name, none⟩ := by
  refine ⟨Table.hasColumn_denoted hm.1 hm.2 hc, fun row hw => ?_⟩
  rw [Descriptor.meets_iff hd hm hc hw]
  cases hcell : tbl.cell row (denoted c.name) <;> simp [Table.meets, hcell, Cell.isNull]

/-- Where a filter asks for a value that has one normal form. -/
theorem Descriptor.reads_normal (hd : d.Accepted) (hm : (TableSchema.ofDescriptor d).Makes tbl)
    (hc : c ∈ (TableSchema.ofDescriptor d).columns) (hv : v ≠ .null)
    (hx : ∀ y, d.Normal c.name v y ↔ y = x) {cell : Cell}
    (hb : Database.bind c.type x = .ok cell) :
    d.Reads tbl (c.name, v) ⟨denoted c.name, some cell⟩ := by
  refine ⟨Table.hasColumn_denoted hm.1 hm.2 hc, fun row hw => ?_⟩
  obtain ⟨i, hi, haff⟩ := Table.affinity_denoted hm.1 hm.2 hc
  have hoperand : tbl.meets row ⟨denoted c.name, some cell⟩ =
      (tbl.cell row (denoted c.name)).equals (c.stored x) := by
    simp only [Table.meets, hi, haff]
    rw [Column.stored_of_bind hb,
      Cell.equals_congr (rank_operand (((hx x).mpr rfl).takes hd hc).1 hb)]
  rw [Descriptor.meets_iff hd hm hc hw, hoperand]
  simp [hv, hx]

end Reads

section Condition

variable {c : Column} {v x : Value}

/-- A filter by null comes to a condition that asks for nothing. -/
theorem Store.condition_null (hd : d.Accepted) (hm : (TableSchema.ofDescriptor d).Makes tbl)
    (hc : c ∈ (TableSchema.ofDescriptor d).columns) :
    ∃ condition, Store.condition d (.ofDescriptor d) (c.name, .null) = .ok (some condition) ∧
      d.Reads tbl (c.name, .null) condition := by
  refine ⟨⟨denoted c.name, none⟩, ?_, Descriptor.reads_null hd hm hc⟩
  simp only [Store.condition, Store.column_known hd hc, ok_bind, Value.isNull, if_true]
  rfl

/-- A filter by a value that has a normal form comes to a condition that asks for as much. -/
theorem Store.condition_value (hd : d.Accepted) (hm : (TableSchema.ofDescriptor d).Makes tbl)
    (hc : c ∈ (TableSchema.ofDescriptor d).columns) (hv : v ≠ .null)
    (hs : Store.sought d c.name v = .ok (.value x)) :
    ∃ condition, Store.condition d (.ofDescriptor d) (c.name, v) = .ok (some condition) ∧
      d.Reads tbl (c.name, v) condition := by
  have hnormal : ∀ y, d.Normal c.name v y ↔ y = x := by
    intro y
    rw [← Store.sought_iff hd (mem_columnNames_iff.mpr ⟨c, hc, rfl⟩) hs]
    simp [eq_comm]
  obtain ⟨-, cell, hb⟩ := ((hnormal x).mpr rfl).takes hd hc
  refine ⟨⟨denoted c.name, some cell⟩, ?_, Descriptor.reads_normal hd hm hc hv hnormal hb⟩
  simp only [Store.condition, Store.column_known hd hc, ok_bind, Value.isNull_of_ne hv, hs, hb]
  rfl

/-- A filter by a value without a normal form comes to no condition. -/
theorem Store.condition_impossible (hd : d.Accepted)
    (hc : c ∈ (TableSchema.ofDescriptor d).columns) (hv : v ≠ .null)
    (hs : Store.sought d c.name v = .ok .impossible) :
    Store.condition d (.ofDescriptor d) (c.name, v) = .ok none := by
  simp only [Store.condition, Store.column_known hd hc, ok_bind, Value.isNull_of_ne hv, hs]
  rfl

end Condition

/-- A filter comes to a condition that asks for as much, or to none where no row can meet it. -/
theorem Store.condition_spec (hd : d.Accepted) (hm : (TableSchema.ofDescriptor d).Makes tbl)
    {filter : String × Value} (hn : filter.1 ∈ d.columnNames)
    (hs : filter.2 ≠ .null → ∃ found, Store.sought d filter.1 filter.2 = .ok found) :
    ∃ condition?, Store.condition d (.ofDescriptor d) filter = .ok condition? ∧
      (∀ condition, condition? = some condition → d.Reads tbl filter condition) ∧
      (condition? = none → ∀ row : Row,
        row.length = (TableSchema.ofDescriptor d).columns.length → ¬ d.Meets row filter) := by
  obtain ⟨name, v⟩ := filter
  obtain ⟨c, hc, rfl⟩ := mem_columnNames_iff.mp hn
  have hreads : ∀ condition, d.Reads tbl (c.name, v) condition →
      ∀ condition', some condition = some condition' → d.Reads tbl (c.name, v) condition' := by
    rintro condition h _ ⟨⟩
    exact h
  by_cases hv : v = .null
  · subst hv
    obtain ⟨condition, hcond, hr⟩ := Store.condition_null hd hm hc
    exact ⟨some condition, hcond, hreads condition hr, fun h => by cases h⟩
  · obtain ⟨found, hf⟩ := hs hv
    cases found with
    | impossible =>
      refine ⟨none, Store.condition_impossible hd hc hv hf, fun condition h => (by cases h), ?_⟩
      intro _ row hw hmeets
      rcases (Descriptor.meets_iff hd hm hc hw).mp hmeets with ⟨h, -⟩ | ⟨-, x, hx, -⟩
      · exact hv h
      · cases (Store.sought_iff hd hn hf).mpr hx
    | value x =>
      obtain ⟨condition, hcond, hr⟩ := Store.condition_value hd hm hc hv hf
      exact ⟨some condition, hcond, hreads condition hr, fun h => by cases h⟩

/-- The rows that some conditions select; none where there are no conditions. -/
def selected (tbl : Table) : Option (List Condition) → List Row
  | some conditions => tbl.matching conditions
  | none => []

/-- The conditions of some filters select the rows that meet all of them. -/
structure Descriptor.Selects (d : Descriptor) (tbl : Table) (filters : List (String × Value))
    (found? : Option (List Condition)) : Prop where
  columns : ∀ found, found? = some found → ∀ c ∈ found, tbl.hasColumn c.column = true
  rows : ∀ row : Row, row.length = (TableSchema.ofDescriptor d).columns.length →
    ((∃ found, found? = some found ∧ ∀ c ∈ found, tbl.meets row c = true) ↔
      ∀ p ∈ filters, d.Meets row p)

theorem Descriptor.selects_nil : d.Selects tbl [] (some []) := by
  refine ⟨?_, fun row _ => by simp⟩
  rintro found ⟨⟩ c hc
  cases hc

/-- A filter that no row can meet leaves nothing to select. -/
theorem Descriptor.selects_none {filter : String × Value} (rest : List (String × Value))
    (h : ∀ row : Row, row.length = (TableSchema.ofDescriptor d).columns.length →
      ¬ d.Meets row filter) : d.Selects tbl (filter :: rest) none := by
  refine ⟨fun found hfound => (by cases hfound), fun row hw => ?_⟩
  constructor
  · rintro ⟨found, ⟨⟩, -⟩
  · intro hall
    exact absurd (hall filter (List.mem_cons_self ..)) (h row hw)

/-- One more condition selects by one more filter. -/
theorem Descriptor.Selects.cons {filter : String × Value} {condition : Condition}
    {rest : List (String × Value)} {found? : Option (List Condition)}
    (hr : d.Reads tbl filter condition) (hs : d.Selects tbl rest found?) :
    d.Selects tbl (filter :: rest) (found?.map (condition :: ·)) := by
  refine ⟨?_, fun row hw => ?_⟩
  · intro found hfound c hc
    obtain ⟨found', hf', rfl⟩ := Option.map_eq_some_iff.mp hfound
    rcases List.mem_cons.mp hc with rfl | hc
    · exact hr.column
    · exact hs.columns found' hf' c hc
  · rw [List.forall_mem_cons, ← hs.rows row hw, ← hr.rows row hw]
    cases found? <;> simp

theorem Store.conditionsOf_spec (hd : d.Accepted) (hm : (TableSchema.ofDescriptor d).Makes tbl)
    {filters : List (String × Value)} (hu : d.Understands filters) :
    ∃ found?, Store.conditionsOf d (.ofDescriptor d) filters = .ok found? ∧
      d.Selects tbl filters found? := by
  induction filters with
  | nil => exact ⟨some [], rfl, Descriptor.selects_nil⟩
  | cons filter rest ih =>
    obtain ⟨rest?, hrest, hselects⟩ := ih
      ⟨fun p hp => hu.known p (List.mem_cons_of_mem _ hp),
        fun p hp => hu.normal p (List.mem_cons_of_mem _ hp)⟩
    obtain ⟨condition?, hcond, hreads, hnone⟩ := Store.condition_spec hd hm
      (hu.known filter (List.mem_cons_self ..)) (hu.normal filter (List.mem_cons_self ..))
    cases condition? with
    | none =>
      refine ⟨none, ?_, Descriptor.selects_none rest (hnone rfl)⟩
      simp only [Store.conditionsOf, hcond, ok_bind]
      rfl
    | some condition =>
      refine ⟨rest?.map (condition :: ·), ?_, .cons (hreads condition rfl) hselects⟩
      simp only [Store.conditionsOf, hcond, ok_bind, hrest]
      rfl

theorem mem_selected {filters : List (String × Value)} {found? : Option (List Condition)}
    (h : d.Selects tbl filters found?)
    (hw : ∀ row ∈ tbl.rows, row.length = (TableSchema.ofDescriptor d).columns.length) {row : Row} :
    row ∈ selected tbl found? ↔ row ∈ tbl.rows ∧ ∀ p ∈ filters, d.Meets row p := by
  cases found? with
  | none =>
    simp only [selected, List.not_mem_nil, false_iff, not_and]
    intro hrow hall
    obtain ⟨found, ⟨⟩, -⟩ := (h.rows row (hw row hrow)).mpr hall
  | some found =>
    simp only [selected, Table.matching, List.mem_filter, List.all_eq_true]
    refine and_congr_right ?_
    intro hrow
    rw [← h.rows row (hw row hrow)]
    simp

theorem selected_sublist (tbl : Table) (found? : Option (List Condition)) :
    (selected tbl found?).Sublist tbl.rows := by
  cases found? with
  | none => exact List.nil_sublist _
  | some found => exact List.filter_sublist

end Conditions

end EntityStore
