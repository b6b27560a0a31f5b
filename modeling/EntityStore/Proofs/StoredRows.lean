import EntityStore.Proofs.Keys

/-! # Rows of valid payloads

A row that is written for a valid payload holds in every column what the column accepts: so it lacks
nothing that the table asks for, and it can be told as a record. The time that the database puts
into a row is accepted as well.
-/
namespace EntityStore

open Database

/-! ## Rows that can be stored -/

/-- What is given for the columns can be laid down and is accepted there. -/
def TableSchema.Storable (t : TableSchema) (given : Record) : Prop :=
  ∀ c ∈ t.columns, ∀ v, given.lookup c.name = some v →
    (∃ cell, Database.bind c.type v = .ok cell) ∧ c.Accepts (c.stored v)

theorem TableSchema.Storable.cells {t : TableSchema} {given : Record} (h : t.Storable given) :
    ∃ cells, t.cells given = .ok cells :=
  cells_of_binds fun c hc v hv => (h c hc v hv).1

theorem accepts_revisedRow {t : TableSchema} {given : Record} {old : Row} (h : t.Storable given)
    (ho : t.Accepts old) : t.Accepts (t.revisedRow given old) :=
  forall_revisedRow (fun c hc v hl => (h c hc v hl).2) ho

theorem storable_timestamp {c : Column} (hc : c.type = .timestamp) (t : Timestamp) :
    (∃ cell, Database.bind c.type (.timestamp t) = .ok cell) ∧
      c.Accepts (c.stored (.timestamp t)) := by
  rw [Column.stored_timestamp hc]
  refine ⟨?_, c.accepts_timestamp hc t⟩
  rw [hc]
  exact ⟨_, rfl⟩

namespace Store

section Given

variable {e : Registered} {mode : PayloadMode} {data : Value} {values : FieldValues}

/-- A value that a payload gives passed the rules of its field, or is a default that they refuse. -/
theorem passed_or_declared (hd : e.descriptor.Accepted) (h : validated e mode data = .ok values)
    {f : Field} (hf : f ∈ e.descriptor.fields) {x : Value} (hx : values.lookup f.name = some x) :
    (∃ raw, Rule.value f raw = .ok x) ∨ ∃ y, f.storage.default = some y ∧ x = y.toValue ∧
      ∃ cause, Rule.value f y.toValue = .error (.refused cause) := by
  obtain ⟨v, hv, hc⟩ := validated_ok h
  obtain ⟨entries, -, hp⟩ := Validator.check_ok hc
  rcases hp.origin hd hv hf (mem_of_lookup hx) with ⟨raw, hr⟩ | ⟨-, y, hy, hst⟩
  · exact .inl ⟨raw, hr⟩
  · rcases Validator.storedDefault_ok hst with hr | hrefused
    · exact .inl ⟨_, hr⟩
    · exact .inr ⟨y, hy, hrefused⟩

/-- Where no default is refused, every value passed. -/
theorem given_passes (hd : e.descriptor.Tame) (h : validated e mode data = .ok values) {f : Field}
    (hf : f ∈ e.descriptor.fields) {x : Value} (hx : values.lookup f.name = some x) :
    ∃ raw, Rule.value f raw = .ok x := by
  rcases passed_or_declared hd.accepted h hf hx with hpassed | ⟨y, hy, -, cause, hr⟩
  · exact hpassed
  · obtain ⟨z, hz⟩ := hd.defaults f hf y hy
    rw [hz] at hr
    cases hr

/-- A field without a value in a full payload may be null and has no default. -/
theorem absent_full (hd : e.descriptor.Tame) (h : validated e .full data = .ok values) {f : Field}
    (hf : f ∈ e.descriptor.fields) (hx : values.lookup f.name = none) :
    f.isNullable = true ∧ f.storage.default = none := by
  obtain ⟨v, hv, hc⟩ := validated_ok h
  obtain ⟨entries, -, hp⟩ := Validator.check_ok hc
  have hnone : ∀ x, (f.name, x) ∉ values := by
    intro x hm
    rw [hp.lookup hd.accepted hv hm] at hx
    cases hx
  refine ⟨?_, hp.no_default hd.accepted hv hf hnone⟩
  by_contra hn
  obtain ⟨x, hm⟩ := hp.filled hd.accepted hv hf (Bool.eq_false_iff.mpr hn)
  exact hnone x hm

theorem storable_newRecord (hd : e.descriptor.Tame) (h : validated e .full data = .ok values)
    (id : String) (now : Timestamp) : e.schema.Storable (newRecord id now values) := by
  intro c hc v hv
  rcases column_cases hc with rfl | rfl | rfl | ⟨f, hf, rfl⟩
  · obtain rfl : Value.text id = v := by injection hv
    exact ⟨⟨.text id, rfl⟩, Column.accepts_text rfl id⟩
  · obtain rfl : Value.timestamp now = v := by injection hv
    exact storable_timestamp rfl now
  · obtain rfl : Value.timestamp now = v := by injection hv
    exact storable_timestamp rfl now
  · have hs := hd.accepted.sound hf
    rw [show f.column.name = f.name from rfl, lookup_newRecord hs.notImplicit] at hv
    obtain ⟨raw, hr⟩ := given_passes hd h hf hv
    exact ⟨(f.accepts_value hs hr).1, (f.accepts_value hs hr).2.1⟩

theorem accepts_newRow (hd : e.descriptor.Tame) (h : validated e .full data = .ok values)
    (id stamp : String) (now : Timestamp) :
    e.schema.Accepts (e.schema.newRow stamp (newRecord id now values)) := by
  refine forall_newRow (fun c hc v hl => (storable_newRecord hd h id now c hc v hl).2)
    fun c hc hl => ?_
  rcases column_cases hc with rfl | rfl | rfl | ⟨f, hf, rfl⟩
  · cases hl
  · cases hl
  · cases hl
  · rw [show f.column.name = f.name from rfl,
      lookup_newRecord (hd.accepted.sound hf).notImplicit] at hl
    obtain ⟨hn, hdef⟩ := absent_full hd h hf hl
    simp only [Table.omitted, Field.column, hdef, Option.map_none]
    exact Column.accepts_null hn

theorem storable_changedValues (hd : e.descriptor.Tame) (h : validated e mode data = .ok values)
    (now : Timestamp) : e.schema.Storable (changedValues now values) := by
  intro c hc v hv
  rcases column_cases hc with rfl | rfl | rfl | ⟨f, hf, rfl⟩
  · rw [lookup_changedValues (by decide), lookup_implicit hd.accepted h (by decide)] at hv
    cases hv
  · rw [lookup_changedValues (by decide), lookup_implicit hd.accepted h (by decide)] at hv
    cases hv
  · obtain rfl : Value.timestamp now = v := by injection hv
    exact storable_timestamp rfl now
  · have hs := hd.accepted.sound hf
    have hne : f.column.name ≠ "updated_at" := by
      intro hn
      exact hs.notImplicit (by rw [show f.name = "updated_at" from hn]; decide)
    rw [lookup_changedValues hne] at hv
    obtain ⟨raw, hr⟩ := given_passes hd h hf hv
    exact ⟨(f.accepts_value hs hr).1, (f.accepts_value hs hr).2.1⟩

end Given

end Store

/-! ## The time of the database -/

section Touched

variable {d : Descriptor} {tbl : Table} {row : Row} {clock : Clock}

/-- The trigger changes the time of the last update and nothing else. -/
theorem mem_zip_touched (ht : tbl.schema = (TableSchema.ofDescriptor d).made)
    (hs : (TableSchema.ofDescriptor d).Distinct) {p : Column × Cell}
    (hp : p ∈ (TableSchema.ofDescriptor d).columns.zip
      (tbl.change row [(Table.updatedColumn, .text clock.stamp)])) :
    p ∈ (TableSchema.ofDescriptor d).columns.zip row ∧ p.1.name ≠ "updated_at" ∨
      p = (⟨"updated_at", .timestamp, false, some .now⟩, .text clock.stamp) := by
  rw [Table.change, Table.columns_made ht, List.zip_map_left, List.map_map, zip_map_zip] at hp
  obtain ⟨⟨c, cell⟩, hm, rfl⟩ := List.mem_map.mp hp
  have hc := (List.of_mem_zip hm).1
  have hu : denoted "updated_at" = Table.updatedColumn := denoted_eq_self (by decide)
  by_cases hn : sameName Table.updatedColumn (denoted c.name) = true
  · right
    obtain rfl : (⟨"updated_at", .timestamp, false, some .now⟩ : Column) = c :=
      hs.eq_of_sameName (List.mem_append_left _ (by simp [TableSchema.implicit])) hc (by rwa [hu])
    simp [hn, Affinity.ofType, Affinity.apply, Affinity.toNumber, numberOfText?_stamp]
  · left
    refine ⟨by simpa [hn] using hm, fun hname => hn ?_⟩
    rw [show c.name = "updated_at" from hname, hu]
    exact sameName_refl _

theorem length_touched (ht : tbl.schema = (TableSchema.ofDescriptor d).made)
    (hw : row.length = (TableSchema.ofDescriptor d).columns.length) (given : Cells) :
    (tbl.change row given).length = (TableSchema.ofDescriptor d).columns.length := by
  simp [Table.change, Table.columns_made ht, hw]

theorem id_touched (ht : tbl.schema = (TableSchema.ofDescriptor d).made)
    (hs : (TableSchema.ofDescriptor d).Distinct)
    (hw : row.length = (TableSchema.ofDescriptor d).columns.length) :
    Row.id (tbl.change row [(Table.updatedColumn, .text clock.stamp)]) = Row.id row := by
  have hlen := length_touched ht hw [(Table.updatedColumn, .text clock.stamp)]
  have hm := (mem_zip_id ht hs hlen).mpr rfl
  rcases mem_zip_touched ht hs hm with ⟨hm, -⟩ | heq
  · exact ((mem_zip_id ht hs hw).mp hm).symm
  · have hname : "id" = "updated_at" := congrArg (fun p : Column × Cell => p.1.name) heq
    exact absurd hname (by decide)

theorem updated_touched (ht : tbl.schema = (TableSchema.ofDescriptor d).made)
    (hs : (TableSchema.ofDescriptor d).Distinct)
    (hw : row.length = (TableSchema.ofDescriptor d).columns.length) :
    Row.updated (tbl.change row [(Table.updatedColumn, .text clock.stamp)]) = .text clock.stamp := by
  have hlen := length_touched ht hw [(Table.updatedColumn, .text clock.stamp)]
  rcases mem_zip_touched ht hs ((mem_zip_updated ht hs hlen).mpr rfl) with ⟨-, hne⟩ | heq
  · exact absurd rfl hne
  · exact congrArg (fun p : Column × Cell => p.2) heq

theorem accepts_touched (ht : tbl.schema = (TableSchema.ofDescriptor d).made)
    (hs : (TableSchema.ofDescriptor d).Distinct)
    (h : (TableSchema.ofDescriptor d).Accepts row) :
    (TableSchema.ofDescriptor d).Accepts
      (tbl.change row [(Table.updatedColumn, .text clock.stamp)]) := by
  intro p hp
  rcases mem_zip_touched ht hs hp with ⟨hp, -⟩ | rfl
  · exact h p hp
  · exact Column.accepts_stamp rfl clock

end Touched

end EntityStore
