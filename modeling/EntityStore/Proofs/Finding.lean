import EntityStore.Proofs.Writing
import EntityStore.Store.Query

/-! # Operations that read

Reading changes no row. A record is found by its id as the cells of its row tell it, and a count
without filters counts all rows.
-/
namespace EntityStore

open Database

/-! ## Ids of rows -/

/-- Among rows with ids of their own, an id finds one row or none. -/
theorem filter_id {rows : List Row} (h : (rows.map Row.id).Nodup) (c : Cell) :
    (∀ row ∈ rows, Row.id row ≠ c) ∧ (rows.filter fun row => decide (Row.id row = c)) = [] ∨
      ∃ row ∈ rows, Row.id row = c ∧ (rows.filter fun row => decide (Row.id row = c)) = [row] := by
  induction rows with
  | nil => exact .inl ⟨by simp, rfl⟩
  | cons row rest ih =>
    rw [List.map_cons, List.nodup_cons] at h
    by_cases hc : Row.id row = c
    · subst hc
      refine .inr ⟨row, List.mem_cons_self .., rfl, ?_⟩
      have hr : (rest.filter fun other => decide (Row.id other = Row.id row)) = [] := by
        rw [List.filter_eq_nil_iff]
        intro other ho he
        exact h.1 (List.mem_map.mpr ⟨other, ho, of_decide_eq_true he⟩)
      rw [List.filter_cons_of_pos (by simp), hr]
    · rw [List.filter_cons_of_neg (by simpa using hc)]
      rcases ih h.2 with ⟨hn, hf⟩ | ⟨found, hm, hi, hf⟩
      · refine .inl ⟨?_, hf⟩
        intro other ho
        rcases List.mem_cons.mp ho with rfl | ho
        · exact hc
        · exact hn other ho
      · exact .inr ⟨found, List.mem_cons_of_mem _ hm, hi, hf⟩

section Table

variable {d : Descriptor} {tbl : Table}

theorem meets_id (hm : (TableSchema.ofDescriptor d).Makes tbl) (k : String) (row : Row) :
    tbl.meets row ⟨denoted "id", some (.text k)⟩ = tbl.bears k row := by
  have hid : denoted "id" = Table.idColumn := denoted_eq_self (by decide)
  obtain ⟨i, hp, ha⟩ := @Table.affinity_denoted (.ofDescriptor d) tbl hm.1 hm.2
    ⟨"id", .varchar TableSchema.idLength, false, none⟩ (List.mem_cons_self ..)
  simp only [hid] at hp
  simp only [Table.meets, hid, hp, ha, Table.bears, Affinity.ofType, Affinity.applyToOperand,
    Affinity.apply]

/-- The rows of a page are rows of the table, as they stand there. -/
theorem page_ok {t : TableSchema} {db : Database} {found : List Condition} {order : SortOrder}
    {limit offset : ℕ} {rows : List Row} (ht : db.table? t.denotedName = some tbl)
    (hm : t.Makes tbl) (hw : ∀ row ∈ tbl.rows, row.length = t.columns.length)
    (h : db.page t.denotedName t.denotedColumns found order limit offset = .ok rows) :
    rows = (((tbl.matching found).mergeSort fun a b => order.compare tbl a b ≠ .gt).drop
      offset).take limit := by
  simp only [page, findTable_eq ht, ok_bind] at h
  split at h
  · cases h
  · cases h
    conv_rhs => rw [← List.map_id (List.take limit _)]
    refine List.map_congr_left ?_
    intro row hr
    have hrow : row ∈ tbl.matching found :=
      List.mem_mergeSort.mp (List.mem_of_mem_drop (List.mem_of_mem_take hr))
    have hlen := hw row (List.mem_of_mem_filter hrow)
    rw [TableSchema.denotedColumns, List.map_map]
    exact Table.map_cell hm.1 hm.2 hlen

end Table

namespace Store

/-! ## Conditions -/

theorem column_id (d : Descriptor) : column (.ofDescriptor d) (.text "id") =
    .ok ⟨"id", .varchar TableSchema.idLength, false, none⟩ := by
  rfl

theorem conditions_id {d : Descriptor} {id : Value} {k : String} (h : id.idText? = some k) :
    conditions d (.ofDescriptor d) (.mapping [("id", id)]) =
      .ok (some [⟨denoted "id", some (.text k)⟩]) := by
  have hs : sought d "id" id = .ok (.value (.text k)) := by
    simp [sought, h]
  have hn : id.isNull = false := by
    cases id <;> first | rfl | cases h
  have hc : condition d (.ofDescriptor d) ("id", id) =
      .ok (some ⟨denoted "id", some (.text k)⟩) := by
    simp [condition, column_id, hn, hs, Database.bind, plainCell, Value.plain]
    rfl
  simp [conditions, filterEntries, conditionsOf, hc]

/-! ## Pages -/

variable {e : Registered} {s s' : Store}

theorem readPage_ok {t : TableSchema} {tbl : Table} {db : Database} {found : List Condition}
    {order : SortOrder} {limit offset : ℤ} {total : ℕ} {records : List Record}
    (ht : db.table? t.denotedName = some tbl) (hm : t.Makes tbl)
    (hw : ∀ row ∈ tbl.rows, row.length = t.columns.length)
    (h : readPage t found order limit offset db = .ok (total, records)) :
    ((((tbl.matching found).mergeSort fun a b => order.compare tbl a b ≠ .gt).drop
      offset.toNat).take limit.toNat).mapM t.record = .ok records := by
  obtain ⟨n, -, h⟩ := bind_ok.mp h
  split at h
  · cases h
  · obtain ⟨-, -, h⟩ := bind_ok.mp h
    obtain ⟨rows, hp, h⟩ := bind_ok.mp h
    obtain ⟨records', hr, h⟩ := bind_ok.mp h
    cases h
    rw [← page_ok ht hm hw (mapError_ok.mp hp)]
    exact hr

/-- A page that was read holds records of rows of the table, and no row changed for it. -/
inductive Got (e : Registered) (request : PageRequest) (s s' : Store) : Page → Prop where
  | none {page : Page} (unmet : conditions e.descriptor e.schema request.filters = .ok none)
    (records : page.records = []) : Got e request s s' page
  | some {page : Page} (limit offset : ℤ) (found : List Condition) (order : SortOrder) (tbl : Table)
    (size : checkPage s.paging request.limit request.offset = .ok (limit, offset))
    (met : conditions e.descriptor e.schema request.filters = .ok (some found))
    (table : s'.table? e.schema = some tbl)
    (records : ((((tbl.matching found).mergeSort fun a b => order.compare tbl a b ≠ .gt).drop
      offset.toNat).take limit.toNat).mapM e.schema.record = .ok page.records) :
    Got e request s s' page

theorem readPage_table {t : TableSchema} {db : Database} {found : List Condition}
    {order : SortOrder} {limit offset : ℤ} {p : ℕ × List Record}
    (h : readPage t found order limit offset db = .ok p) :
    ∃ tbl, db.table? t.denotedName = some tbl := by
  obtain ⟨n, hn, -⟩ := bind_ok.mp h
  obtain ⟨tbl, hf, -⟩ := bind_ok.mp (mapError_ok.mp hn)
  exact ⟨tbl, findTable_ok hf⟩

theorem get_spec {request : PageRequest} {r : Except Failure Page} (hs : s.Tabled e.schema)
    (hw : s.Fitted e.schema) (h : (get e request).on s = (r, s')) :
    Quiet e s s' ∧ ∀ page, r = .ok page → Got e request s s' page := by
  unfold get at h
  rcases ensure_cases h with ⟨⟨f, rfl⟩, hq⟩ | ⟨ready, hq, hx, h⟩
  · exact ⟨hq, fun page hp => by cases hp⟩
  · rw [Action.on_bind_ok (Action.on_get ready), hx.paging] at h
    -- every check of the request comes before the table is read
    rcases Action.check_cases h with ⟨⟨f, rfl⟩, rfl⟩ | ⟨⟨limit, offset⟩, hsize, h⟩
    · exact ⟨hq, fun page hp => by cases hp⟩
    rcases Action.check_cases h with ⟨⟨f, rfl⟩, rfl⟩ | ⟨sortColumn, -, h⟩
    · exact ⟨hq, fun page hp => by cases hp⟩
    rcases Action.check_cases h with ⟨⟨f, rfl⟩, rfl⟩ | ⟨dir, -, h⟩
    · exact ⟨hq, fun page hp => by cases hp⟩
    rcases Action.check_cases h with ⟨⟨f, rfl⟩, rfl⟩ | ⟨found?, hcond, h⟩
    · exact ⟨hq, fun page hp => by cases hp⟩
    cases found? with
    | none =>
      cases h
      refine ⟨hq, ?_⟩
      rintro page ⟨⟩
      exact .none hcond rfl
    | some found =>
      rcases transaction_cases h with ⟨⟨f, rfl⟩, rfl⟩ | ⟨db, after, page, hd, hrun, rfl, rfl⟩
      · exact ⟨hq.trans (quiet_opened e _), fun page hp => by cases hp⟩
      · obtain ⟨⟨total, records⟩, hread, hrun⟩ := bind_ok.mp hrun
        cases hrun
        refine ⟨hq.trans (quiet_stored hd), ?_⟩
        rintro page ⟨⟩
        obtain ⟨tbl, ht⟩ := readPage_table hread
        have htbl := (table_of_database hd).trans ht
        have hwt : ∀ row ∈ tbl.rows, row.length = e.schema.columns.length := by
          have := hq.fitted hw
          rwa [Fitted, rows_of_table htbl] at this
        refine .some limit offset found _ tbl hsize hcond ?_
          (readPage_ok ht (hq.tabled hs tbl htbl) hwt hread)
        rw [table_of_database (database?_stored hd _), ht]

theorem checkPage_one {paging : Paging} {limit offset : ℤ}
    (h : checkPage paging (.int 1) (.int 0) = .ok (limit, offset)) : limit = 1 ∧ offset = 0 := by
  simp only [checkPage, Value.isNull, isWhole, Bool.false_eq_true, if_false] at h
  split at h
  · cases h
  · change (.ok (1, 0) : Except Failure (ℤ × ℤ)) = .ok (limit, offset) at h
    cases h
    exact ⟨rfl, rfl⟩

theorem getById_on {id : Value} {r : Except Failure (Option Record)}
    (h : (getById e id).on s = (r, s')) : ∃ x : Except Failure Page,
      (get e { filters := .mapping [("id", id)], limit := .int 1 }).on s = (x, s') ∧
        r = x.map fun page => page.records.head? := by
  unfold getById at h
  rcases hg : (get e { filters := .mapping [("id", id)], limit := .int 1 }).on s with ⟨f | page, s₁⟩
  · rw [Action.on_bind_error hg] at h
    cases h
    exact ⟨_, rfl, rfl⟩
  · rw [Action.on_bind_ok hg] at h
    cases h
    exact ⟨_, rfl, rfl⟩

theorem quiet_getById {id : Value} {r : Except Failure (Option Record)} (hs : s.Tabled e.schema)
    (hw : s.Fitted e.schema) (h : (getById e id).on s = (r, s')) : Quiet e s s' := by
  obtain ⟨x, hx, -⟩ := getById_on h
  exact (get_spec hs hw hx).1

/-- The record of an id is that of the row which bears it. -/
theorem getById_ok {id : Value} {k : String} {answer : Option Record}
    (hs : s.Tabled e.schema) (hw : s.Fitted e.schema)
    (hu : ((s.rows e.schema).map Row.id).Nodup) (hk : id.idText? = some k)
    (h : (getById e id).on s = (.ok answer, s')) :
      (∀ row ∈ s.rows e.schema, Row.id row ≠ .text k) ∧ answer = none ∨
      ∃ row ∈ s.rows e.schema, Row.id row = .text k ∧
        ∃ record, e.schema.record row = .ok record ∧ answer = some record := by
  obtain ⟨x, hx, ha⟩ := getById_on h
  obtain ⟨page, rfl, rfl⟩ := map_ok.mp ha.symm
  obtain ⟨hq, hgot⟩ := get_spec hs hw hx
  cases hgot page rfl with
  | none hunmet =>
    rw [conditions_id hk] at hunmet
    cases hunmet
  | some limit offset found order tbl hsize hmet htable hrecords =>
    rw [conditions_id hk] at hmet
    cases hmet
    have hm := hq.tabled hs tbl htable
    obtain ⟨rfl, rfl⟩ := checkPage_one hsize
    have hrows : s.rows e.schema = tbl.rows := hq.rows.symm.trans (rows_of_table htable)
    have hmatch : tbl.matching [⟨denoted "id", some (.text k)⟩] =
        tbl.rows.filter fun row => decide (Row.id row = .text k) := by
      refine List.filter_congr ?_
      intro row _
      simp [meets_id hm, bears_eq hm.1 hm.2]
    rw [hmatch] at hrecords
    rw [hrows] at hu ⊢
    rcases filter_id hu (.text k) with ⟨hn, hf⟩ | ⟨row, hrow, hid, hf⟩
    · rw [hf, List.mergeSort_nil] at hrecords
      have hnone : page.records = [] := by
        injection hrecords with hrecords
        exact hrecords.symm
      exact .inl ⟨hn, by rw [hnone]; rfl⟩
    · rw [hf, List.mergeSort_singleton] at hrecords
      change [row].mapM e.schema.record = .ok page.records at hrecords
      obtain ⟨record, rest, hr, -, hpage⟩ :=
        List.forall₂_cons_left_iff.mp (mapM_ok_iff.mp hrecords)
      exact .inr ⟨row, hrow, hid, record, hr, by rw [hpage]; rfl⟩

/-- A count without filters counts all rows. -/
theorem count_spec {filters : Value} {r : Except Failure ℕ} (h : (count e filters).on s = (r, s')) :
    Quiet e s s' ∧ ∀ n, r = .ok n → filters = .null → n = (s.rows e.schema).length := by
  unfold count at h
  rcases ensure_cases h with ⟨⟨f, rfl⟩, hq⟩ | ⟨ready, hq, -, h⟩
  · exact ⟨hq, fun n hn => by cases hn⟩
  · rcases Action.check_cases h with ⟨⟨f, rfl⟩, rfl⟩ | ⟨found?, hcond, h⟩
    · exact ⟨hq, fun n hn => by cases hn⟩
    cases found? with
    | none =>
      cases h
      refine ⟨hq, ?_⟩
      rintro n - rfl
      cases hcond
    | some found =>
      rcases transaction_cases h with ⟨⟨f, rfl⟩, rfl⟩ | ⟨db, after, n, hd, hrun, rfl, rfl⟩
      · exact ⟨hq.trans (quiet_opened e _), fun n hn => by cases hn⟩
      · obtain ⟨total, hcount, hrun⟩ := bind_ok.mp hrun
        cases hrun
        refine ⟨hq.trans (quiet_stored hd), ?_⟩
        rintro n ⟨⟩ rfl
        cases hcond
        obtain ⟨tbl, hf, hcount⟩ := bind_ok.mp (mapError_ok.mp hcount)
        have htbl := (table_of_database hd).trans (findTable_ok hf)
        have hrows : s.rows e.schema = tbl.rows := hq.rows.symm.trans (rows_of_table htbl)
        have hall : tbl.matching [] = tbl.rows := by simp [Table.matching]
        simp only [List.map_nil, Table.readFault?, List.find?_nil, Option.map_none, hall] at hcount
        cases hcount
        rw [hrows]

end Store

end EntityStore
