import EntityStore.Proofs.Filters

/-! # Pages of a listing

The pages that follow one another partition the records that meet the filters. Each page tells how
many there are in all, and the listing downward is the listing upward reversed.
-/
namespace EntityStore

open Database

/-! ## One page -/

theorem Database.Table.readFault?_none {tbl : Table} {asked : String} {columns : List String}
    (h : ∀ c ∈ columns, tbl.hasColumn c = true) : tbl.readFault? asked columns = none := by
  rw [Table.readFault?, Option.map_eq_none_iff, List.find?_eq_none]
  intro c hc
  simp [h c hc]

theorem mapM_drop_take {α β ε : Type} {f : α → Except ε β} {l : List α} {out : List β}
    (h : l.mapM f = .ok out) (offset limit : ℕ) :
    ((l.drop offset).take limit).mapM f = .ok ((out.drop offset).take limit) := by
  rw [mapM_ok_iff] at h ⊢
  exact List.forall₂_take limit (List.forall₂_drop offset h)

theorem mapM_reverse {α β ε : Type} {f : α → Except ε β} {l : List α} {out : List β}
    (h : l.mapM f = .ok out) : l.reverse.mapM f = .ok out.reverse := by
  rw [mapM_ok_iff] at h ⊢
  exact List.forall₂_reverse_iff.mpr h

namespace Store

/-- The table of an entity is there, and the store knows. -/
structure Ready (e : Registered) (s : Store) (tbl : Table) : Prop where
  kept : Kept e s
  applied : s.isApplied e = true
  table : s.table? e.schema = some tbl

variable {e : Registered} {s : Store} {tbl : Table}

theorem ensure_applied (h : s.isApplied e = true) : (ensure e).on s = (.ok e.schema, s) := by
  simp only [ensure, ensureInterrupted, Action.on_bind, Action.on_get, h, if_true, Action.on_pure,
    Action.on_ofExcept]

theorem Ready.makes (h : Ready e s tbl) : e.schema.Makes tbl := h.kept.tabled tbl h.table

theorem Ready.fits (h : Ready e s tbl) :
    ∀ row ∈ tbl.rows, row.length = e.schema.columns.length := by
  have := h.kept.fitted
  rwa [Fitted, rows_of_table h.table] at this

theorem Ready.stored (h : Ready e s tbl) {db : Database} (hd : s.database? = some db) :
    Ready e (s.stored db) tbl := by
  refine ⟨h.kept.of_quiet (quiet_stored hd), ?_, ?_⟩
  · rw [isApplied, applied_stored]
    exact h.applied
  · rw [table_of_database (database?_stored hd db), ← table_of_database hd, h.table]

section Reading

variable {found : List Condition} {db : Database}

theorem count_reached (ht : db.table? e.schema.denotedName = some tbl)
    (hf : ∀ c ∈ found, tbl.hasColumn c.column = true) :
    db.count e.schema.denotedName found = .ok (tbl.matching found).length := by
  have hfault : tbl.readFault? e.schema.denotedName (found.map (·.column)) = none := by
    apply Table.readFault?_none
    intro c hc
    obtain ⟨condition, hm, rfl⟩ := List.mem_map.mp hc
    exact hf condition hm
  simp only [Database.count, findTable_eq ht, ok_bind, hfault]
  rfl

theorem page_reached (ht : db.table? e.schema.denotedName = some tbl) (hm : e.schema.Makes tbl)
    (hw : ∀ row ∈ tbl.rows, row.length = e.schema.columns.length)
    (hf : ∀ c ∈ found, tbl.hasColumn c.column = true) (order : SortOrder)
    (ho : tbl.hasColumn order.column = true) (limit offset : ℕ) :
    db.page e.schema.denotedName e.schema.denotedColumns found order limit offset =
      .ok (((order.sorted tbl (tbl.matching found)).drop offset).take limit) := by
  have hfault : tbl.readFault? e.schema.denotedName
      (e.schema.denotedColumns ++ found.map (·.column) ++ [order.column]) = none := by
    apply Table.readFault?_none
    intro c hc
    rcases List.mem_append.mp hc with hc | hc
    · rcases List.mem_append.mp hc with hc | hc
      · obtain ⟨column, hcm, rfl⟩ := List.mem_map.mp hc
        exact Table.hasColumn_denoted hm.1 hm.2 hcm
      · obtain ⟨condition, hcm, rfl⟩ := List.mem_map.mp hc
        exact hf condition hcm
    · rw [List.mem_singleton.mp hc]
      exact ho
  have hpage : ∃ rows, db.page e.schema.denotedName e.schema.denotedColumns found order limit
      offset = .ok rows := by
    simp only [Database.page, findTable_eq ht, ok_bind, hfault]
    exact ⟨_, rfl⟩
  obtain ⟨rows, hrows⟩ := hpage
  rw [hrows, page_ok ht hm hw hrows]
  rfl

/-- A page and the number of rows, where the numbers that are asked for are integers of 64 bits. -/
theorem readPage_reached (ht : db.table? e.schema.denotedName = some tbl) (hm : e.schema.Makes tbl)
    (hw : ∀ row ∈ tbl.rows, row.length = e.schema.columns.length)
    (hf : ∀ c ∈ found, tbl.hasColumn c.column = true) (order : SortOrder)
    (ho : tbl.hasColumn order.column = true) (limit offset : ℤ) :
    readPage e.schema found order limit offset db =
      if ¬ Cell.fitsInt limit ∨ ¬ Cell.fitsInt offset then
        .error (.plain .overflow BindFault.hugeInteger.message)
      else
        ((((order.sorted tbl (tbl.matching found)).drop offset.toNat).take limit.toNat).mapM
          e.schema.record).map fun records => ((tbl.matching found).length, records) := by
  simp only [readPage, asOperation, count_reached ht hf, page_reached ht hm hw hf order ho,
    Except.mapError, ok_bind]
  split
  · rfl
  · cases (((order.sorted tbl (tbl.matching found)).drop offset.toNat).take limit.toNat).mapM
      e.schema.record <;> rfl

end Reading

/-- What a reading answers where the table is there. -/
theorem get_ready (h : Ready e s tbl) (request : PageRequest) {n o : ℤ} {c : Column}
    {dir : SortDirection} {entries : List (String × Value)} {found? : Option (List Condition)}
    {listing : List Record} (hsize : checkPage s.paging request.limit request.offset = .ok (n, o))
    (hstart : 0 ≤ o) (hn : Cell.fitsInt n = true) (ho : Cell.fitsInt o = true)
    (hcolumn : column e.schema request.orderBy = .ok c) (hc : c ∈ e.schema.columns)
    (hdir : direction request.direction = .ok dir)
    (hcond : conditions e.descriptor e.schema request.filters = .ok found?)
    (hsel : e.descriptor.Selects tbl entries found?)
    (hlist : (SortOrder.sorted ⟨denoted c.name, dir⟩ tbl (selected tbl found?)).mapM
      e.schema.record = .ok listing) :
    ∃ s', (get e request).on s = (.ok {
        records := (listing.drop o.toNat).take n.toNat, totalCount := listing.length, limit := n,
        offset := o, hasMore :=
          decide (o + ((listing.drop o.toNat).take n.toNat).length < listing.length) }, s') ∧
      Ready e s' tbl ∧ s'.paging = s.paging := by
  have hlength : listing.length = (selected tbl found?).length := by
    rw [← (SortOrder.sorted_perm ⟨denoted c.name, dir⟩ tbl _).length_eq]
    exact (mapM_ok_iff.mp hlist).length_eq.symm
  unfold get
  rw [Action.on_bind_ok (ensure_applied h.applied), Action.on_bind_ok (Action.on_get s)]
  simp only [hsize, hcolumn, hdir, hcond, Action.on_bind, Action.on_ofExcept]
  cases found? with
  | none =>
    have hnil : listing = [] := List.eq_nil_of_length_eq_zero hlength
    subst hnil
    refine ⟨s, ?_, h, rfl⟩
    simp only [List.drop_nil, List.take_nil, List.length_nil, Action.on_pure]
    have hmore : ¬ o + (0 : ℕ) < (0 : ℕ) := by omega
    rw [decide_eq_false hmore]
  | some found =>
    obtain ⟨db, hd, htbl⟩ := Option.bind_eq_some_iff.mp h.table
    refine ⟨s.stored db, ?_, h.stored hd, paging_stored s db⟩
    have hpage := readPage_reached htbl h.makes h.fits (hsel.columns found rfl) ⟨denoted c.name, dir⟩
      (Table.hasColumn_denoted h.makes.1 h.makes.2 hc) n o
    have hrecords := mapM_drop_take hlist o.toNat n.toNat
    simp only [selected] at hrecords hlength
    rw [if_neg (by simp [hn, ho]), hrecords, ← hlength] at hpage
    rw [transaction_reached hd, hpage]
    rfl

/-- What a count answers where the table is there. -/
theorem count_ready (h : Ready e s tbl) {filters : Value} {entries : List (String × Value)}
    {found? : Option (List Condition)}
    (hcond : conditions e.descriptor e.schema filters = .ok found?)
    (hsel : e.descriptor.Selects tbl entries found?) :
    ∃ s', (count e filters).on s = (.ok (selected tbl found?).length, s') := by
  unfold count
  rw [Action.on_bind_ok (ensure_applied h.applied)]
  simp only [hcond, Action.on_bind, Action.on_ofExcept]
  cases found? with
  | none => exact ⟨s, rfl⟩
  | some found =>
    obtain ⟨db, hd, htbl⟩ := Option.bind_eq_some_iff.mp h.table
    refine ⟨s.stored db, ?_⟩
    have hcount := count_reached (e := e) htbl (hsel.columns found rfl)
    simp only [transaction_reached hd, asOperation, hcount, Except.mapError, ok_bind, selected]
    rfl

/-- An action on a table starts by making the table, so it may as well start where it is there. -/
theorem on_ready {α : Type} {t : TableSchema} {ready : Store}
    (he : (ensure e).on s = (.ok t, ready)) (f : TableSchema → Action α) :
    (ensure e >>= f).on s = (ensure e >>= f).on ready := by
  have hready : ready.isApplied e = true := (ensure_spec he).1.applied rfl
  obtain rfl := (ensure_spec he).2 t rfl
  rw [Action.on_bind_ok he, Action.on_bind_ok (ensure_applied hready)]

/-! ## Listings -/

/-- The records of just those rows that meet the filters, each after those that stand before it. -/
inductive Lists (e : Registered) (tbl : Table) (filters : List (String × Value))
    (order : SortOrder) (records : List Record) : Prop where
  | intro (rows : List Row)
    (exact : ∀ row, row ∈ rows ↔ row ∈ tbl.rows ∧ ∀ p ∈ filters, e.descriptor.Meets row p)
    (ordered : rows.Pairwise (order.Before tbl)) (told : rows.mapM e.schema.record = .ok records)

theorem Ready.ids_apart (hd : e.descriptor.Accepted) (h : Ready e s tbl) {rows : List Row}
    (hr : rows.Sublist tbl.rows) : rows.Pairwise fun a b =>
      (tbl.cell a Table.idColumn).rank ≠ (tbl.cell b Table.idColumn).rank := by
  have hm := h.makes
  have hrows := rows_of_table h.table
  have hids : (tbl.rows.map Row.id).Nodup := hrows ▸ h.kept.distinct
  refine List.Pairwise.sublist hr ?_
  refine (List.pairwise_map.mp hids).imp_of_mem ?_
  intro a b ha hb hne hrank
  rw [← hrows] at ha hb
  obtain ⟨k, hk⟩ := h.kept.id_text hd ha
  obtain ⟨l, hl⟩ := h.kept.id_text hd hb
  rw [cell_id hm.1 hm.2, cell_id hm.1 hm.2, hk, hl] at hrank
  rw [hk, hl, Cell.rank_text_inj hrank] at hne
  exact hne rfl

theorem Ready.records (hd : e.descriptor.Accepted) (h : Ready e s tbl) {rows : List Row}
    (hr : ∀ row ∈ rows, row ∈ tbl.rows) : ∃ records, rows.mapM e.schema.record = .ok records := by
  cases hm : rows.mapM e.schema.record with
  | ok records => exact ⟨records, rfl⟩
  | error f =>
    obtain ⟨row, hrow, he⟩ := mapM_error hm
    have hsourced := h.kept.sourced row ((rows_of_table h.table) ▸ hr row hrow)
    obtain ⟨r, hrecord⟩ := hsourced.record hd
    rw [hrecord] at he
    cases he

/-- The rows of a page can be told. -/
theorem Ready.page_records (hd : e.descriptor.Accepted) (h : Ready e s tbl) (order : SortOrder)
    (found : List Condition) (o n : ℕ) :
    ∃ records, (((order.sorted tbl (tbl.matching found)).drop o).take n).mapM e.schema.record =
      .ok records :=
  h.records hd fun _ hrow => List.mem_of_mem_filter (SortOrder.mem_of_mem_cut hrow)

/-- The rows that filters select, in order. -/
theorem Ready.lists (hd : e.descriptor.Accepted) (h : Ready e s tbl)
    {entries : List (String × Value)} {found? : Option (List Condition)}
    (hsel : e.descriptor.Selects tbl entries found?) (order : SortOrder) :
    ∃ records, (order.sorted tbl (selected tbl found?)).mapM e.schema.record = .ok records ∧
      Lists e tbl entries order records := by
  have hperm := SortOrder.sorted_perm order tbl (selected tbl found?)
  have hsub := selected_sublist tbl found?
  have hmem : ∀ row ∈ order.sorted tbl (selected tbl found?), row ∈ tbl.rows :=
    fun row hrow => hsub.subset (hperm.mem_iff.mp hrow)
  obtain ⟨records, hr⟩ := h.records hd hmem
  refine ⟨records, hr, .intro _ ?_ (SortOrder.sorted_strict (h.ids_apart hd hsub)) hr⟩
  intro row
  rw [hperm.mem_iff, mem_selected hsel h.fits]

end Store

/-- A page of a listing. -/
structure Page.Cuts (page : Page) (listing : List Record) (o n : ℕ) : Prop where
  records : page.records = (listing.drop o).take n
  total : page.totalCount = listing.length
  more : page.hasMore = true ↔ o + n < listing.length

namespace Store

/-! ## Walks -/

/-- The page of some size at an offset, in the order of a column. -/
def pageAt (filters : Value) (column : String) (dir : SortDirection) (n : ℕ) (o : ℤ) :
    PageRequest where
  filters := filters
  limit := .int n
  offset := .int o
  orderBy := .text column
  direction := .text dir.word

/-- The pages that a caller reads who goes on for as long as there is more. -/
inductive Walk (e : Registered) (request : ℤ → PageRequest) (n : ℕ) :
    Store → ℤ → List Page → Prop where
  | last {s s' : Store} {o : ℤ} {page : Page} (read : (get e (request o)).on s = (.ok page, s'))
    (more : page.hasMore = false) : Walk e request n s o [page]
  | next {s s' : Store} {o : ℤ} {page : Page} {pages : List Page}
    (read : (get e (request o)).on s = (.ok page, s')) (more : page.hasMore = true)
    (rest : Walk e request n s' (o + n) pages) : Walk e request n s o (page :: pages)

/-- Pages that cut a listing, one after the other, come to its end and leave nothing out. -/
theorem walk_of_cuts (request : ℤ → PageRequest) {n : ℕ} {P : Store → Prop}
    {listing : List Record} (hn : 1 ≤ n) (hbound : (listing.length : ℤ) ≤ Cell.maxInt)
    (hpage : ∀ s, P s → ∀ o : ℕ, (o : ℤ) ≤ Cell.maxInt → ∃ page s',
      (get e (request o)).on s = (.ok page, s') ∧ page.Cuts listing o n ∧ P s')
    {s : Store} (hs : P s) {o : ℕ} (ho : (o : ℤ) ≤ Cell.maxInt) :
    ∃ pages, Walk e request n s o pages ∧ pages.flatMap (·.records) = listing.drop o ∧
      ∀ page ∈ pages, page.totalCount = listing.length := by
  obtain ⟨page, s', hread, hcuts, hs'⟩ := hpage s hs o ho
  by_cases hmore : o + n < listing.length
  · -- what is left gets shorter with every page
    have hnext : ((o + n : ℕ) : ℤ) ≤ Cell.maxInt := by omega
    obtain ⟨pages, hwalk, hrecords, htotal⟩ := walk_of_cuts request hn hbound hpage hs' hnext
    refine ⟨page :: pages, .next hread (hcuts.more.mpr hmore) (by exact_mod_cast hwalk), ?_, ?_⟩
    · rw [List.flatMap_cons, hrecords, hcuts.records, ← List.drop_drop]
      exact List.take_append_drop n _
    · intro q hq
      rcases List.mem_cons.mp hq with rfl | hq
      · exact hcuts.total
      · exact htotal q hq
  · refine ⟨[page], .last hread ?_, ?_, ?_⟩
    · rw [← Bool.not_eq_true, hcuts.more]
      exact hmore
    · rw [List.flatMap_singleton, hcuts.records]
      refine List.take_of_length_le ?_
      rw [List.length_drop]
      omega
    · intro q hq
      rw [List.mem_singleton.mp hq]
      exact hcuts.total
  termination_by listing.length - o

theorem fitsInt_nat {n : ℕ} : Cell.fitsInt n = true ↔ (n : ℤ) ≤ Cell.maxInt := by
  have hlow : Cell.minInt ≤ (n : ℤ) := by
    unfold Cell.minInt
    omega
  simp [Cell.fitsInt, hlow]

theorem checkPage_at {paging : Paging} {n : ℕ} (hn : 1 ≤ n) (hmax : (n : ℤ) ≤ paging.largest)
    (o : ℕ) : checkPage paging (.int n) (.int o) = .ok ((n : ℤ), (o : ℤ)) := by
  have hsize : ¬ ((n : ℤ) < 1 ∨ paging.largest < n) := by omega
  have hstart : (some (o : ℤ)).filter (0 ≤ ·) = some (o : ℤ) := by simp
  simp only [checkPage, Value.isNull, Bool.false_eq_true, if_false, isWhole, if_neg hsize, hstart]
  rfl

theorem direction_word (dir : SortDirection) : direction (.text dir.word) = .ok dir := by
  have hword : SortDirection.ofWord? dir.word.toLower = some dir := by
    cases dir <;> decide +kernel
  simp only [direction, Value.plain, hword]

/-- A page of an entity whose table is there cuts the listing of its filters and its order. -/
theorem Ready.cuts (h : Ready e s tbl) {filters : Value} {entries : List (String × Value)}
    {found? : Option (List Condition)} {c : Column} {dir : SortDirection} {listing : List Record}
    {n o : ℕ} (hn : 1 ≤ n) (hmax : (n : ℤ) ≤ s.paging.largest) (hfit : (n : ℤ) ≤ Cell.maxInt)
    (ho : (o : ℤ) ≤ Cell.maxInt) (hd : e.descriptor.Accepted) (hc : c ∈ e.schema.columns)
    (hcond : conditions e.descriptor e.schema filters = .ok found?)
    (hsel : e.descriptor.Selects tbl entries found?)
    (hlist : (SortOrder.sorted ⟨denoted c.name, dir⟩ tbl (selected tbl found?)).mapM
      e.schema.record = .ok listing) :
    ∃ page s', (get e (pageAt filters c.name dir n o)).on s = (.ok page, s') ∧
      page.Cuts listing o n ∧ Ready e s' tbl ∧ s'.paging = s.paging := by
  obtain ⟨s', hget, hready, hpaging⟩ := get_ready h (pageAt filters c.name dir n o)
    (checkPage_at hn hmax o) (Int.natCast_nonneg o) (fitsInt_nat.mpr hfit) (fitsInt_nat.mpr ho)
    (column_known hd hc) hc (direction_word dir) hcond hsel hlist
  refine ⟨_, s', hget, ⟨rfl, rfl, ?_⟩, hready, hpaging⟩
  simp only [Int.toNat_natCast, List.length_take, List.length_drop, decide_eq_true_eq]
  omega

/-- Stores on which readings answer the same are walked alike. -/
theorem Walk.congr {request : ℤ → PageRequest} {n : ℕ} {a b : Store} {o : ℤ} {pages : List Page}
    (hsame : ∀ r : PageRequest, (get e r).on a = (get e r).on b) (h : Walk e request n a o pages) :
    Walk e request n b o pages := by
  cases h with
  | last hread hmore => exact .last ((hsame _).symm.trans hread) hmore
  | next hread hmore hrest => exact .next ((hsame _).symm.trans hread) hmore hrest

/-- The pages of size `n` partition the records that meet the filters. Sizes and offsets of pages
are integers of 64 bits. -/
structure Partitions (e : Registered) (s : Store) (filters : Value)
    (entries : List (String × Value)) (name : String) (n : ℕ) (tbl : Table)
    (listing : SortDirection → List Record) : Prop where
  lists : ∀ dir, Lists e tbl entries ⟨denoted name, dir⟩ (listing dir)
  walk : ∀ dir, ∃ pages, Walk e (pageAt filters name dir n) n s 0 pages ∧
    pages.flatMap (·.records) = listing dir ∧
    ∀ page ∈ pages, page.totalCount = (listing dir).length
  page : ∀ dir (o : ℕ), (o : ℤ) ≤ Cell.maxInt → ∃ page s',
    (get e (pageAt filters name dir n o)).on s = (.ok page, s') ∧ page.Cuts (listing dir) o n
  count : ∀ dir, ∃ s', (count e filters).on s = (.ok (listing dir).length, s')
  reverse : listing .descending = (listing .ascending).reverse

section Partitions

variable {filters : Value} {entries : List (String × Value)} {name : String} {n : ℕ}

theorem Ready.partitions (hd : e.descriptor.Accepted) (h : Ready e s tbl)
    (hentries : filterEntries filters = .ok entries) (hu : e.descriptor.Understands entries)
    (hname : name ∈ e.descriptor.columnNames) (hn : 1 ≤ n) (hmax : (n : ℤ) ≤ s.paging.largest)
    (hfit : (n : ℤ) ≤ Cell.maxInt) (hrows : (tbl.rows.length : ℤ) ≤ Cell.maxInt) :
    ∃ listing, Partitions e s filters entries name n tbl listing := by
  obtain ⟨found?, hcond, hsel⟩ := conditionsOf_spec hd h.makes hu
  have hcond : conditions e.descriptor e.schema filters = .ok found? := by
    rw [conditions, hentries, ok_bind, hcond]
  obtain ⟨c, hc, rfl⟩ := mem_columnNames_iff.mp hname
  choose listing hlist hlists using fun dir => h.lists hd hsel ⟨denoted c.name, dir⟩
  have hlength : ∀ dir, (listing dir).length = (selected tbl found?).length := by
    intro dir
    rw [← (SortOrder.sorted_perm ⟨denoted c.name, dir⟩ tbl _).length_eq]
    exact (mapM_ok_iff.mp (hlist dir)).length_eq.symm
  have hbound : ∀ dir, ((listing dir).length : ℤ) ≤ Cell.maxInt := by
    intro dir
    have hsub := (selected_sublist tbl found?).length_le
    rw [hlength]
    omega
  have hpage : ∀ dir s', Ready e s' tbl ∧ s'.paging = s.paging → ∀ o : ℕ, (o : ℤ) ≤ Cell.maxInt →
      ∃ page s'', (get e (pageAt filters c.name dir n o)).on s' = (.ok page, s'') ∧
        page.Cuts (listing dir) o n ∧ (Ready e s'' tbl ∧ s''.paging = s.paging) := by
    rintro dir s' ⟨hs', hp'⟩ o ho
    obtain ⟨page, s'', hget, hcut, hs'', hp''⟩ :=
      hs'.cuts hn (by rw [hp']; exact hmax) hfit ho hd hc hcond hsel (hlist dir)
    exact ⟨page, s'', hget, hcut, hs'', hp''.trans hp'⟩
  refine ⟨listing, hlists, ?_, ?_, ?_, ?_⟩
  · intro dir
    exact walk_of_cuts (pageAt filters c.name dir n) hn (hbound dir) (hpage dir) ⟨h, rfl⟩ (o := 0)
      (by decide)
  · intro dir o ho
    obtain ⟨page, s', hget, hcut, -⟩ := hpage dir s ⟨h, rfl⟩ o ho
    exact ⟨page, s', hget, hcut⟩
  · intro dir
    rw [hlength dir]
    exact count_ready h hcond hsel
  · have hdown := hlist .descending
    rw [SortOrder.sorted_reverse _ (h.ids_apart hd (selected_sublist tbl found?))] at hdown
    rw [mapM_reverse (hlist .ascending)] at hdown
    injection hdown with hdown
    exact hdown.symm

/-- The table is made by the first reading, if it was not there before. -/
theorem Partitions.of_ready {ready : Store} {t : TableSchema} {listing : SortDirection → List Record}
    (he : (ensure e).on s = (.ok t, ready))
    (h : Partitions e ready filters entries name n tbl listing) :
    Partitions e s filters entries name n tbl listing := by
  refine ⟨h.lists, ?_, ?_, ?_, h.reverse⟩
  · intro dir
    obtain ⟨pages, hwalk, hrest⟩ := h.walk dir
    exact ⟨pages, hwalk.congr fun r => (on_ready he _).symm, hrest⟩
  · intro dir o ho
    obtain ⟨page, s', hget, hcut⟩ := h.page dir o ho
    exact ⟨page, s', (on_ready he _).trans hget, hcut⟩
  · intro dir
    obtain ⟨s', hcount⟩ := h.count dir
    exact ⟨s', (on_ready he _).trans hcount⟩

end Partitions

/-! ## After any run -/

/-- The table of an entity after any run, once it is there. -/
theorem Fresh.ready {s₀ ready : Store} {t : TableSchema} (hd : e.descriptor.Accepted)
    (hf : Fresh e s₀) (steps : List Step)
    (he : (ensure e).on (EntityStore.run e steps s₀).2 = (.ok t, ready)) :
    ∃ tbl, Ready e ready tbl ∧ tbl.rows = (EntityStore.run e steps s₀).2.rows e.schema ∧
      ready.paging = (EntityStore.run e steps s₀).2.paging := by
  have hk := hf.kept.run hd steps
  obtain ⟨hready, hrows, tbl, htbl⟩ := hk.ready he
  refine ⟨tbl, ⟨hready, (ensure_spec he).1.applied rfl, htbl⟩, ?_, ?_⟩
  · rw [← hrows, rows_of_table htbl]
  · exact (ensure_spec he).1.extension.paging

/-- After any run on a new table, the pages that follow one another from the start partition the
records that meet the filters. They stand in the order of a column and then of their ids; the two
directions are each other's reverse; every page tells how many records there are, as a count does,
and whether there are more behind it. A table numbers its rows by integers of 64 bits. -/
theorem pages_partition {s₀ ready : Store} {steps : List Step} {t : TableSchema} {filters : Value}
    {entries : List (String × Value)} {name : String} {n : ℕ} (hd : e.descriptor.Accepted)
    (hf : Fresh e s₀) (hs : s = (EntityStore.run e steps s₀).2)
    (he : (ensure e).on s = (.ok t, ready)) (hentries : filterEntries filters = .ok entries)
    (hu : e.descriptor.Understands entries) (hname : name ∈ e.descriptor.columnNames) (hn : 1 ≤ n)
    (hmax : (n : ℤ) ≤ s.paging.largest) (hfit : (n : ℤ) ≤ Cell.maxInt)
    (hrows : ((s.rows e.schema).length : ℤ) ≤ Cell.maxInt) :
    ∃ tbl, ready.table? e.schema = some tbl ∧ tbl.rows = s.rows e.schema ∧
      ∃ listing, Partitions e s filters entries name n tbl listing := by
  subst hs
  obtain ⟨tbl, hready, htrows, hpaging⟩ := hf.ready hd steps he
  rw [← hpaging] at hmax
  rw [← htrows] at hrows
  obtain ⟨listing, hp⟩ := hready.partitions hd hentries hu hname hn hmax hfit hrows
  exact ⟨tbl, hready.table, htrows, listing, hp.of_ready he⟩

/-- An entity with a label. -/
def labelled : Registered :=
  ⟨0, { name := "t", fields := [{ name := "label", kind := .shortText }] }⟩

/-- A payload, or a filter, of one label. -/
def label (s : String) : Value := .mapping [("label", .text s)]

/-- Two records of one label. -/
def twoLabels : List Step := [⟨0, .create (label "a")⟩, ⟨0, .create (label "a")⟩]

/-- The two records of one label make two pages of one record each. -/
theorem label_paged : ∃ pages,
    Walk labelled (pageAt (label "a") "label" .descending 1) 1
      (EntityStore.run labelled twoLabels inMemory).2 0 pages ∧
      (pages.flatMap (·.records)).length = 2 ∧ ∀ page ∈ pages, page.totalCount = 2 := by
  have hd : labelled.descriptor.Accepted := by
    unfold Descriptor.Accepted
    rfl
  have hu : labelled.descriptor.Understands [("label", .text "a")] :=
    Descriptor.understands_single (by decide) fun _ => ⟨.value (.text "a"), by rfl⟩
  generalize hs : (EntityStore.run labelled twoLabels inMemory).2 = s
  have hrun : ((ensure labelled).on s).1.isOk = true ∧
      ((count labelled (label "a")).on s).1.toOption = some 2 ∧ 1 ≤ s.paging.largest ∧
      ((s.rows labelled.schema).length : ℤ) ≤ Cell.maxInt := by
    rw [← hs]
    decide +kernel
  obtain ⟨hok, hcount, hmax, hrows⟩ := hrun
  obtain ⟨t, ready, he⟩ := Action.exists_of_isOk hok
  obtain ⟨tbl, -, -, listing, hp⟩ := @pages_partition _ _ _ _ _ _ (label "a") _ "label" 1 hd
    (fresh_inMemory labelled) hs.symm he rfl hu (by decide) le_rfl hmax (by decide) hrows
  obtain ⟨pages, hw, hrecords, htotal⟩ := hp.walk .descending
  obtain ⟨s', hs'⟩ := hp.count .descending
  have hlength : (listing .descending).length = 2 := by
    rw [hs'] at hcount
    simpa [Except.toOption] using hcount
  exact ⟨pages, hw, by rw [hrecords, hlength], by rw [← hlength]; exact htotal⟩

/-- At an offset beyond the integers of 64 bits a reading fails, though there is a record before it
and a page could start at any offset from zero on. -/
theorem far_page_fails : labelled.descriptor.Accepted ∧ Fresh labelled inMemory ∧
    ((count labelled .null).on
      (EntityStore.run labelled [⟨0, .create (label "a")⟩] inMemory).2).1.toOption = some 1 ∧
    ((get labelled (pageAt .null "label" .ascending 1 (2 ^ 63))).on
      (EntityStore.run labelled [⟨0, .create (label "a")⟩] inMemory).2).1.isOk = false := by
  refine ⟨?_, fresh_inMemory labelled, ?_⟩
  · unfold Descriptor.Accepted
    rfl
  · decide +kernel

end Store

end EntityStore
