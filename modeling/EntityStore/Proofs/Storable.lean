import EntityStore.Proofs.Given
import EntityStore.Proofs.ReadBack

/-! # Values that columns can store

What passes the rules of a field is made for its column: it can be laid down there, is not lost on
the way, and can be read again.
-/
namespace EntityStore

open Database

namespace Field

variable {f : Field} {x : Value}

theorem affinity_of_textual (hs : f.Sound) (hk : f.kind.isTextual = true) :
    Affinity.ofType f.column.type = .text := by
  have ha := hs.storage
  have ht : f.storageType = .text ∨ f.storageType = .varchar := by
    cases hf : f.kind <;> simp_all [FieldKind.isTextual, FieldKind.allowedStorage]
  rcases ht with ht | ht <;> simp [column, columnType, ht, Affinity.ofType]

theorem isBinary_of_decimal (hs : f.Sound) (hk : f.kind = .decimal) :
    Database.isBinary f.column.type = true := by
  rcases hs.decimal_storage hk with ht | ht | ht | ht <;> simp [column, columnType, ht, Database.isBinary]

theorem type_of_kind (hs : f.Sound) :
    (f.kind = .boolean → f.column.type = .boolean) ∧ (f.kind = .date → f.column.type = .date) ∧
      (f.kind = .timestamp → f.column.type = .timestamp) := by
  have ha := hs.storage
  refine ⟨?_, ?_, ?_⟩ <;> intro hk <;> rw [hk] at ha <;>
    simp only [FieldKind.allowedStorage, List.mem_singleton] at ha <;>
    simp [column, columnType, ha]

/-- A value that passes the rules of its field is one that its column takes. -/
theorem takes_of_passed (hs : f.Sound) (h : f.Passed x) : f.column.type.Takes x := by
  cases h with
  | text s hk =>
    refine .text _ s (affinity_of_textual hs ?_)
    rcases hk with hk | hk | hk <;> rw [hk] <;> rfl
  | choice s hk => exact .text _ s (affinity_of_textual hs (by rw [hk]; rfl))
  | integer n hk hr =>
    obtain ⟨low, high, hc, hi⟩ := range?_of_integer hs hk
    obtain ⟨hl, hh⟩ := hr low high hi
    exact .integer _ n low high hc hl hh
  | binary y hk => exact .number _ _ (isBinary_of_decimal hs hk) rfl
  | exact d hk => exact .number _ _ (isBinary_of_decimal hs hk) rfl
  | boolean b hk =>
    rw [(type_of_kind hs).1 hk]
    exact .boolean b
  | date d hk =>
    rw [(type_of_kind hs).2.1 hk]
    exact .date d
  | timestamp t hk hu =>
    rw [(type_of_kind hs).2.2 hk]
    exact .timestamp t hu

theorem takes_of_value {v : Value} (hs : f.Sound) (h : Rule.value f v = .ok x) :
    f.column.type.Takes x := by
  rcases Rule.value_ok h with ⟨-, rfl, -⟩ | ⟨-, h⟩
  · exact .null _
  · exact takes_of_passed hs h

/-- A default that is kept as it was declared is one that its column takes, or cannot be bound. -/
theorem takes_of_default {y : Default} (hs : f.Sound) (hy : f.storage.default = some y)
    {cell : Cell} (hb : Database.bind f.column.type y.toValue = .ok cell) :
    f.column.type.Takes y.toValue := by
  have hd := hs.default y hy
  have hm : defaultMatches f.kind y = true := by
    by_contra hm
    simp [defaultProblems, hm] at hd
  by_cases htext : f.kind.isTextual = true
  · obtain ⟨s, rfl, -⟩ := defaultProblems_text hd htext
    exact .text _ s (affinity_of_textual hs htext)
  · cases hk : f.kind with
    | integer =>
      obtain ⟨n, rfl, hr⟩ := defaultProblems_integer hd hk
      obtain ⟨low, high, hc, hi⟩ := range?_of_integer hs hk
      obtain ⟨hl, hh⟩ := hr low high hi
      exact .integer _ n low high hc hl hh
    | decimal =>
      rw [hk] at hm
      cases y with
      | int n => exact .number _ _ (isBinary_of_decimal hs hk) rfl
      | float z => exact .number _ _ (isBinary_of_decimal hs hk) rfl
      | _ => cases hm
    | boolean =>
      rw [hk] at hm
      cases y with
      | bool b =>
        rw [(type_of_kind hs).1 hk]
        exact .boolean b
      | _ => cases hm
    | date =>
      rw [hk] at hm
      rw [(type_of_kind hs).2.1 hk] at hb
      cases y <;> cases hm
      cases hb
    | timestamp =>
      rw [hk] at hm
      rw [(type_of_kind hs).2.2 hk] at hb
      cases y <;> cases hm
      cases hb
    | _ => simp [hk, FieldKind.isTextual] at htext

end Field

namespace Validator

variable {d : Descriptor} {v : Validator} {mode : PayloadMode} {entries : List (String × Value)}
  {values : FieldValues}

/-- No field has two values. -/
theorem Passes.lookup (hd : d.Accepted) (hv : ofDescriptor d = .ok v)
    (h : Passes v mode entries values) {k : String} {x : Value} (hx : (k, x) ∈ values) :
    values.lookup k = some x := by
  obtain rfl := ofDescriptor_descriptor hv
  exact lookup_of_mem (h.sublist.nodup hd.distinct) hx

/-- A value of a field is one that the column of the field takes, if it can be bound there. -/
theorem Passes.takes (hd : d.Accepted) (hv : ofDescriptor d = .ok v)
    (h : Passes v mode entries values) {f : Field} (hf : f ∈ d.fields) {x : Value}
    (hx : (f.name, x) ∈ values) {cell : Cell} (hb : Database.bind f.column.type x = .ok cell) :
    f.column.type.Takes x := by
  have hs := hd.sound hf
  rcases h.origin hd hv hf hx with ⟨raw, hr⟩ | ⟨-, y, hy, hst⟩
  · exact Field.takes_of_value hs hr
  · rcases storedDefault_ok hst with hr | ⟨rfl, -⟩
    · exact Field.takes_of_value hs hr
    · exact Field.takes_of_default hs hy hb

/-- A field without a value in a full payload has no default. -/
theorem Passes.no_default (hd : d.Accepted) (hv : ofDescriptor d = .ok v)
    (h : Passes v .full entries values) {f : Field} (hf : f ∈ d.fields)
    (hx : ∀ x, (f.name, x) ∉ values) : f.storage.default = none := by
  obtain rfl := ofDescriptor_descriptor hv
  cases hy : f.storage.default with
  | none => rfl
  | some y =>
    exfalso
    cases hr : Value.entry? entries f.name with
    | some raw =>
      obtain ⟨x, hp⟩ := h.supplied f hf raw hr
      exact hx x ((h.mem f.name x).mpr ⟨f, hf, rfl, .supplied raw hr hp⟩)
    | none =>
      obtain ⟨x, hk⟩ := exists_default hv hf hy
      exact hx x ((h.mem f.name x).mpr ⟨f, hf, rfl, .default hr rfl hk⟩)

end Validator

/-! ## Cells that hold something -/

namespace Database

theorem isNull_wholeReal (x : Binary64) : (Cell.wholeReal x).isNull = false := by
  rcases wholeReal_cases x with h | ⟨n, h, -⟩ <;> rw [h] <;> rfl

theorem isNull_numberOfText? {s : String} {c : Cell} (h : Cell.numberOfText? s = some c) :
    c.isNull = false := by
  unfold Cell.numberOfText? at h
  simp only at h
  split at h
  · cases h
  · split_ifs at h <;> injection h with h <;> subst h <;> rfl

/-- No column loses a cell. -/
theorem isNull_apply (a : Affinity) {c : Cell} (h : c.isNull = false) :
    (a.apply c).isNull = false := by
  have hnumber : (Affinity.toNumber c).isNull = false := by
    unfold Affinity.toNumber
    split
    · split
      · exact isNull_wholeReal _
      · rename_i hn
        exact isNull_numberOfText? hn
      · rfl
    · exact isNull_wholeReal _
    · exact h
  cases a with
  | text => cases c <;> first | rfl | exact h
  | numeric => exact hnumber
  | real =>
    simp only [Affinity.apply]
    split
    · rfl
    · exact hnumber

theorem isNull_realCell {x : Binary64} (h : x ≠ .nan) : (realCell x).isNull = false := by
  cases x <;> first | rfl | exact absurd rfl h

theorem intCell_of_fits {n : ℤ} (h : Cell.fitsInt n = true) : intCell n = .ok (.int n) := by
  rw [intCell, if_pos h]

end Database

theorem ColumnType.fitsInt_of_range {type : ColumnType} {n low high : ℤ}
    (h : type.range? = some (low, high)) (hl : low ≤ n) (hh : n ≤ high) :
    Cell.fitsInt n = true := by
  have hb : Cell.minInt ≤ n ∧ n ≤ Cell.maxInt := by
    unfold Cell.minInt Cell.maxInt
    rcases integral_cases h with rfl | rfl | rfl <;> cases h <;> omega
  simp [Cell.fitsInt, hb.1, hb.2]

namespace Field

variable {f : Field} {x : Value}

/-- A value that passes its rules can be laid down, and something is laid down for it. -/
theorem bind_passed (hs : f.Sound) (h : f.Passed x) :
    ∃ cell, Database.bind f.column.type x = .ok cell ∧ cell.isNull = false := by
  have htext : ∀ s, f.kind.isTextual = true →
      ∃ cell, Database.bind f.column.type (.text s) = .ok cell ∧ cell.isNull = false := by
    intro s hk
    rcases textual_cases (affinity_of_textual hs hk) with ⟨n, ht⟩ | ht <;> rw [ht] <;>
      exact ⟨_, rfl, rfl⟩
  cases h with
  | text s hk =>
    refine htext s ?_
    rcases hk with hk | hk | hk <;> rw [hk] <;> rfl
  | choice s hk => exact htext s (by rw [hk]; rfl)
  | integer n hk hr =>
    obtain ⟨low, high, hc, hi⟩ := range?_of_integer hs hk
    obtain ⟨hl, hh⟩ := hr low high hi
    refine ⟨.int n, ?_, rfl⟩
    have hfit := ColumnType.fitsInt_of_range hc hl hh
    rcases integral_cases hc with ht | ht | ht <;> rw [ht] <;> exact intCell_of_fits hfit
  | binary y hk _ hfin =>
    have hy : y ≠ .nan := by
      rintro rfl
      cases hfin
    rcases isBinary_cases (isBinary_of_decimal hs hk) with ⟨p, r, ht⟩ | ht | ht <;> rw [ht] <;>
      exact ⟨_, rfl, isNull_realCell hy⟩
  | exact d hk _ hfin =>
    have hd : d.toBinary64 ≠ .nan := by
      cases d with
      | finite s c e => exact Binary64.ofScaled_ne_nan s c e
      | _ => cases hfin
    rcases isBinary_cases (isBinary_of_decimal hs hk) with ⟨p, r, ht⟩ | ht | ht <;> rw [ht] <;>
      exact ⟨_, rfl, isNull_realCell hd⟩
  | boolean b hk =>
    rw [(type_of_kind hs).1 hk]
    exact ⟨_, rfl, rfl⟩
  | date d hk =>
    rw [(type_of_kind hs).2.1 hk]
    exact ⟨_, rfl, rfl⟩
  | timestamp t hk hu =>
    rw [(type_of_kind hs).2.2 hk]
    exact ⟨_, rfl, rfl⟩

end Field

/-! ## Cells that a column accepts -/

/-- A cell that a column may hold and that can be told as a value. -/
structure Column.Accepts (c : Column) (cell : Cell) : Prop where
  filled : c.nullable = false → cell.isNull = false
  readable : ∃ v, readCell c.type (Table.reported cell) = .ok v

theorem Column.accepts_null {c : Column} (h : c.nullable = true) : c.Accepts .null := by
  refine ⟨?_, .null, by cases c.type <;> rfl⟩
  intro hn
  rw [h] at hn
  cases hn

/-- What passes the rules of a field is stored as a cell that its column accepts. -/
theorem Field.accepts_value {f : Field} {raw x : Value} (hs : f.Sound)
    (h : Rule.value f raw = .ok x) :
    (∃ cell, Database.bind f.column.type x = .ok cell) ∧ f.column.Accepts (f.column.stored x) ∧
      (x ≠ .null → (f.column.stored x).isNull = false) := by
  have ht := takes_of_value hs h
  rcases Rule.value_ok h with ⟨-, rfl, hn⟩ | ⟨-, hp⟩
  · have hb : Database.bind f.column.type .null = .ok .null := by cases f.column.type <;> rfl
    rw [Column.stored_null]
    exact ⟨⟨_, hb⟩, Column.accepts_null hn, fun hne => absurd rfl hne⟩
  · obtain ⟨cell, hb, hcell⟩ := bind_passed hs hp
    obtain ⟨y, hy, -⟩ := read_back ht hb
    have hfull := isNull_apply (Affinity.ofType f.column.type) hcell
    rw [Column.stored_of_bind hb]
    exact ⟨⟨cell, hb⟩, ⟨fun _ => hfull, y, hy⟩, fun _ => hfull⟩

/-- A moment is stored as a cell that its column accepts. -/
theorem Column.accepts_timestamp {c : Column} (hc : c.type = .timestamp) (t : Timestamp) :
    c.Accepts (timestampCell t) := by
  obtain ⟨s, hs, hr⟩ := timestamp?_timestampCell t
  rw [hs]
  refine ⟨fun _ => rfl, .timestamp { t with offset := some 0 }, ?_⟩
  rw [hc]
  simp [Table.reported, readCell, hr, Timestamp.toUtc?]

/-- The time that the database itself writes is a cell that a column of moments accepts. -/
theorem Column.accepts_stamp {c : Column} (hc : c.type = .timestamp) (clock : Clock) :
    c.Accepts (.text clock.stamp) := by
  obtain ⟨u, hu, ho⟩ := timestamp?_stamp clock
  refine ⟨fun _ => rfl, .timestamp { u with offset := some 0 }, ?_⟩
  rw [hc]
  simp [Table.reported, readCell, hu, Timestamp.toUtc?, ho]

theorem Column.accepts_text {c : Column} (hc : Affinity.ofType c.type = .text) (s : String) :
    c.Accepts (.text s) := by
  refine ⟨fun _ => rfl, .text s, ?_⟩
  rcases textual_cases hc with ⟨n, ht⟩ | ht <;> rw [ht] <;> rfl

/-- Every column accepts its cell of a row. -/
def TableSchema.Accepts (t : TableSchema) (row : Row) : Prop :=
  ∀ p ∈ t.columns.zip row, p.1.Accepts p.2

section Rows

variable {t : TableSchema} {tbl : Table} {row : Row}

end Rows

end EntityStore
