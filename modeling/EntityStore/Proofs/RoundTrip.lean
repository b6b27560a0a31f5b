import EntityStore.Proofs.Storable
import EntityStore.Proofs.Writing

/-! # A created record is what was given

The record that a creation answers has the columns in order. A field that the payload gives comes
back with its value, unless it is a number that its column rounds; every other field is null.
-/
namespace EntityStore

open Database

namespace Store

variable {e : Registered}

section Told

variable {v : Validator} {entries : List (String × Value)} {values : FieldValues} {f : Field}
  {id stamp : String} {now : Timestamp} {x y : Value}

/-- A field that a payload leaves out is told as null. -/
theorem told_absent (hd : e.descriptor.Accepted) (hv : Validator.ofDescriptor e.descriptor = .ok v)
    (hp : v.Passes .full entries values) (hf : f ∈ e.descriptor.fields)
    (hnone : ∀ x, (f.name, x) ∉ values) (hy : readCell f.column.type
      (Table.reported (f.column.filled stamp (newRecord id now values))) = .ok y) : y = .null := by
  have hl : (newRecord id now values).lookup f.column.name = none := by
    rw [show f.column.name = f.name from rfl, lookup_newRecord (hd.sound hf).notImplicit]
    cases hl : values.lookup f.name with
    | none => rfl
    | some x => exact absurd (mem_of_lookup hl) (hnone x)
  have hdef := hp.no_default hd hv hf hnone
  rw [Column.filled_none hl] at hy
  simp only [Table.omitted, Field.column, hdef, Option.map_none, Table.reported, readCell] at hy
  cases hy
  rfl

/-- A value that a payload gives is told as it was exactly if its column keeps it. -/
theorem told_given (hd : e.descriptor.Accepted) (hv : Validator.ofDescriptor e.descriptor = .ok v)
    (hp : v.Passes .full entries values) (hf : f ∈ e.descriptor.fields) (hx : (f.name, x) ∈ values)
    (hc : ∃ cells, e.schema.cells (newRecord id now values) = .ok cells) (hy : readCell f.column.type
      (Table.reported (f.column.filled stamp (newRecord id now values))) = .ok y) :
    Value.Same y x ↔ f.column.type.Keeps x := by
  obtain ⟨cells, hc⟩ := hc
  have hl : (newRecord id now values).lookup f.column.name = some x :=
    (lookup_newRecord (hd.sound hf).notImplicit).trans (hp.lookup hd hv hx)
  obtain ⟨cell, hb, -⟩ := (laid_of_cells hc).value f.column (field_column hf) x hl
  obtain ⟨z, hz, hsame⟩ := read_back (hp.takes hd hv hf hx hb) hb
  rw [Column.filled_some hl, Column.stored_of_bind hb, hz] at hy
  cases hy
  exact hsame

end Told

/-- A record that a creation answers has the columns in order and tells what was given: a value comes
back exactly if its column keeps it, which is sure of numbers of moderate size. -/
theorem create_round_trip {data : Value} {v : Validator} {values : FieldValues} {s s' : Store}
    {r : Record} (hd : e.descriptor.Accepted) (hs : s.Tabled e.schema)
    (hv : Validator.ofDescriptor e.descriptor = .ok v)
    (hc : v.check .full data = .ok (.ok values)) (h : (create e data).on s = (.ok r, s')) :
    r.map (·.1) = e.descriptor.columnNames ∧
      ∀ f ∈ e.descriptor.fields, ∃ y, r.lookup f.name = some y ∧
        ((∀ x, (f.name, x) ∉ values) → y = .null) ∧
        ∀ x, (f.name, x) ∈ values → (Value.Same y x ↔ f.column.type.Keeps x) ∧
          (f.column.type.Moderate x → Value.Same y x) := by
  rcases create_spec hs h with ⟨⟨f, hf⟩, -⟩ | ⟨record, hr, hcr⟩
  · cases hf
  · cases hr
    obtain ⟨ready, tbl, vs, now, later, -, -, hval, -, hrow, -, -, -⟩ := hcr
    obtain ⟨v', hv', hc'⟩ := validated_ok hval
    rw [hv] at hv'
    cases hv'
    rw [hc] at hc'
    cases hc'
    obtain ⟨entries, rfl, hp⟩ := Validator.check_ok hc
    have hrec := hrow.record
    rw [TableSchema.newRow, List.map_map] at hrec
    obtain ⟨hnames, hcells⟩ := record_map hrec
    rw [columnNames_schema] at hnames
    refine ⟨hnames, ?_⟩
    intro f hf
    obtain ⟨y, hy, hread⟩ := hcells f.column (field_column hf)
    refine ⟨y, lookup_of_mem (by rw [hnames]; exact hd.columns_distinct) hy, ?_, ?_⟩
    · exact fun hnone => told_absent hd hv hp hf hnone hread
    · intro x hx
      have hsame := told_given hd hv hp hf hx hrow.cells hread
      exact ⟨hsame, fun hm => hsame.mpr (keeps_of_moderate hm)⟩

theorem create_ok_of_isOk {data : Value} {s : Store} (h : ((create e data).on s).1.isOk = true) :
    ∃ r s', (create e data).on s = (.ok r, s') := by
  rcases hc : (create e data).on s with ⟨f | r, s'⟩
  · rw [hc] at h
    cases h
  · exact ⟨r, s', rfl⟩

theorem price_round_trip :
    ∃ r s', (create ⟨0, priced 6 2⟩ (.mapping [("price", .decimal (.finite false 150 (-2)))])).on
        inMemory = (.ok r, s') ∧
      r.map (·.1) = ["id", "created_at", "updated_at", "price"] ∧
      ∃ y, r.lookup "price" = some y ∧ Value.Same y (.decimal (.finite false 150 (-2))) := by
  obtain ⟨r, s', hc⟩ := @create_ok_of_isOk ⟨0, priced 6 2⟩
    (.mapping [("price", .decimal (.finite false 150 (-2)))]) inMemory (by decide +kernel)
  have hd : (priced 6 2).Accepted := by
    unfold Descriptor.Accepted
    rfl
  have hs : inMemory.Tabled (.ofDescriptor (priced 6 2)) := by
    have hnone : inMemory.table? (.ofDescriptor (priced 6 2)) = none := by decide +kernel
    intro tbl ht
    rw [hnone] at ht
    cases ht
  have hv : Validator.ofDescriptor (priced 6 2) = .ok ⟨priced 6 2, []⟩ := by rfl
  have hk : Validator.check ⟨priced 6 2, []⟩ .full
      (.mapping [("price", .decimal (.finite false 150 (-2)))]) =
      .ok (.ok [("price", .decimal (.finite false 150 (-2)))]) := by rfl
  have hf : decimalField "price" 6 2 ∈ (priced 6 2).fields := by simp [priced]
  have hm : ColumnType.Moderate (.numeric (some 6) (some 2))
      (.decimal (.finite false 150 (-2))) := by
    refine ⟨by decide, 150, by norm_num, ?_⟩
    simp [Value.quantity?, Decimal.quantity?, Decimal.value?, Decimal.scaled, zpow_neg,
      div_eq_mul_inv]
  obtain ⟨hnames, hfields⟩ := @create_round_trip ⟨0, priced 6 2⟩ _ _ _ _ _ _ hd hs hv hk hc
  have hcolumns : (priced 6 2).columnNames = ["id", "created_at", "updated_at", "price"] := by rfl
  obtain ⟨y, hy, -, hx⟩ := hfields (decimalField "price" 6 2) hf
  exact ⟨r, s', hc, hnames.trans hcolumns, y, hy, (hx _ (List.mem_singleton_self _)).2 hm⟩

/-- An entity with an amount, whose column names no number of places. -/
def amounts : Registered := ⟨0, { name := "t", fields := [{ name := "n", kind := .decimal }] }⟩

/-- A decimal number that an answer tells for a field. -/
def toldDecimal? (field : String) : Except Failure Record → Option Decimal
  | .ok r =>
    match r.lookup field with
    | some (.decimal d) => some d
    | _ => none
  | .error _ => none

/-- An amount below the places that a column has by itself is lost, though it is valid. -/
theorem small_amount_lost :
    amounts.descriptor.Accepted ∧
      (∃ r s', (create amounts (.mapping [("n", .decimal (.finite false 1 (-11)))])).on inMemory =
          (.ok r, s') ∧ r.lookup "n" = some (.decimal (.finite false 0 (-10)))) ∧
      ¬ Value.Same (.decimal (.finite false 0 (-10))) (.decimal (.finite false 1 (-11))) := by
  refine ⟨?_, ?_, ?_⟩
  · unfold Descriptor.Accepted
    rfl
  · have ht : toldDecimal? "n" ((create amounts
        (.mapping [("n", .decimal (.finite false 1 (-11)))])).on inMemory).1 =
        some (.finite false 0 (-10)) := by decide +kernel
    rcases hc : (create amounts (.mapping [("n", .decimal (.finite false 1 (-11)))])).on inMemory
      with ⟨f | r, s'⟩
    · rw [hc] at ht
      cases ht
    · rw [hc] at ht
      refine ⟨r, s', rfl, ?_⟩
      simp only [toldDecimal?] at ht
      split at ht
      · rename_i d hd
        cases ht
        exact hd
      · cases ht
  · intro h
    cases h with
    | number q hl hr =>
      simp only [Value.quantity?, Decimal.quantity?, Decimal.value?, Option.map_some,
        Option.some.injEq] at hl hr
      rw [← hl] at hr
      norm_num [Decimal.scaled] at hr

end Store

end EntityStore
