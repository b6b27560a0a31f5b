import EntityStore.Proofs.Missing
import EntityStore.Proofs.Paging

/-! # Filters in another order

A reading takes its filters one by one, up to the first that ends it: a filter on no column, or by a
value that no record can hold, or by one whose check has no answer. So the order of the filters makes
no difference exactly if all that end a reading end it in the same way.
-/
namespace EntityStore

open Database

/-! ## Filters that end a reading -/

/-- How a filter ends the reading of the filters: its column is unknown, no record can hold its value,
or the check of its value fails. -/
inductive Ending where
  | unknown
  | impossible
  | failed (f : Failure)

/-- A filter ends the reading of the filters. -/
inductive Descriptor.Ends (d : Descriptor) (filter : String × Value) : Ending → Prop where
  | unknown (stray : filter.1 ∉ d.columnNames) : d.Ends filter .unknown
  | impossible (known : filter.1 ∈ d.columnNames) (filled : filter.2 ≠ .null)
    (none : Store.sought d filter.1 filter.2 = .ok .impossible) : d.Ends filter .impossible
  | failed (f : Failure) (known : filter.1 ∈ d.columnNames) (filled : filter.2 ≠ .null)
    (fails : Store.sought d filter.1 filter.2 = .error f) : d.Ends filter (.failed f)

/-- Filters that end a reading end it in one way. -/
def Descriptor.Uniform (d : Descriptor) (entries : List (String × Value)) : Prop :=
  ∀ p ∈ entries, ∀ q ∈ entries, ∀ a b, d.Ends p a → d.Ends q b → a = b

/-- A reading does not depend on the order of its filters: in any order it tells that there is no
such column exactly if one of them names none, and otherwise it comes to the same. -/
structure Descriptor.Unordered (d : Descriptor) (entries : List (String × Value)) {α : Type}
    (read : List (String × Value) → Except Failure α × Store) : Prop where
  unknown : ∀ l, l.Perm entries →
    ((∃ k, (read l).1 = .error (.fieldNotFound k d.name d.columnNames)) ↔
      ∃ p ∈ entries, p.1 ∉ d.columnNames)
  same : (∀ p ∈ entries, p.1 ∈ d.columnNames) → ∀ l, l.Perm entries → read l = read entries

/-- What a reading that ends at a filter answers. -/
def Ending.answer {α : Type} (d : Descriptor) (key : String) : Ending → Except Failure (Option α)
  | .unknown => .error (.fieldNotFound key d.name d.columnNames)
  | .impossible => .ok none
  | .failed f => .error f

namespace Ending

variable {α β : Type} {d : Descriptor} {a b : Ending}

/-- Only an unknown column is told by its name. -/
theorem answer_congr (ha : a ≠ .unknown) (k k' : String) :
    (a.answer d k : Except Failure (Option α)) = a.answer d k' := by
  cases a with
  | unknown => exact absurd rfl ha
  | impossible => rfl
  | failed f => rfl

/-- Endings at known columns are told apart. -/
theorem eq_of_answer (ha : a ≠ .unknown) (hb : b ≠ .unknown) {k k' : String} {g : Option α → β}
    (h : (a.answer d k).map g = (b.answer d k').map g) : a = b := by
  cases a <;> cases b <;> simp_all [answer, Except.map]

end Ending

namespace Store

variable {d : Descriptor} {tbl : Table} {p : String × Value} {a : Ending}

theorem column_unknown {name : String} (h : name ∉ d.columnNames) :
    column (.ofDescriptor d) (.text name) =
      .error (.fieldNotFound name d.name d.columnNames) := by
  have hnone : (TableSchema.ofDescriptor d).column? name = none := by
    rw [TableSchema.column?, List.find?_eq_none]
    intro c hc hname
    exact h (mem_columnNames_iff.mpr ⟨c, hc, of_decide_eq_true hname⟩)
  simp only [column, hnone, columnNames_schema]
  rfl

theorem condition_ends (hd : d.Accepted) (h : d.Ends p a) :
    condition d (.ofDescriptor d) p = a.answer d p.1 := by
  obtain ⟨name, v⟩ := p
  cases h with
  | unknown hstray =>
    simp only [condition, column_unknown hstray, error_bind]
    rfl
  | impossible hknown hv hs =>
    obtain ⟨c, hc, rfl⟩ := mem_columnNames_iff.mp hknown
    exact condition_impossible hd hc hv hs
  | failed f hknown hv hs =>
    obtain ⟨c, hc, rfl⟩ := mem_columnNames_iff.mp hknown
    simp only [condition, column_known hd hc, ok_bind, Value.isNull_of_ne hv, hs]
    rfl

/-- A filter on a column by a value that its records can hold does not end the reading. -/
theorem not_ends {x : Value} (hn : p.1 ∈ d.columnNames) (hs : sought d p.1 p.2 = .ok (.value x)) :
    ¬ d.Ends p a := by
  rintro (hstray | ⟨-, -, hnone⟩ | ⟨f, -, -, hfails⟩)
  · exact hstray hn
  · rw [hs] at hnone
    cases hnone
  · rw [hs] at hfails
    cases hfails

/-- A filter that does not end the reading comes to a condition. -/
theorem condition_reads (hd : d.Accepted) (hm : (TableSchema.ofDescriptor d).Makes tbl)
    (h : ∀ a, ¬ d.Ends p a) :
    ∃ c, condition d (.ofDescriptor d) p = .ok (some c) ∧ d.Reads tbl p c := by
  obtain ⟨name, v⟩ := p
  have hknown : name ∈ d.columnNames := by
    by_contra hstray
    exact h _ (.unknown hstray)
  obtain ⟨c, hc, rfl⟩ := mem_columnNames_iff.mp hknown
  by_cases hv : v = .null
  · subst hv
    exact condition_null hd hm hc
  · cases hs : sought d c.name v with
    | error f => exact absurd (.failed f hknown hv hs) (h _)
    | ok found =>
      cases found with
      | impossible => exact absurd (.impossible hknown hv hs) (h _)
      | value x => exact condition_value hd hm hc hv hs

theorem conditionsOf_head (hd : d.Accepted) (h : d.Ends p a) (rest : List (String × Value)) :
    conditionsOf d (.ofDescriptor d) (p :: rest) = a.answer d p.1 := by
  rw [conditionsOf, condition_ends hd h]
  cases a <;> rfl

/-- A filter that is brought to the front ends the reading there. -/
theorem conditionsOf_front (hd : d.Accepted) (h : d.Ends p a) {entries : List (String × Value)}
    (hp : p ∈ entries) :
    ∃ l, l.Perm entries ∧ conditionsOf d (.ofDescriptor d) l = a.answer d p.1 := by
  obtain ⟨before, rest, rfl⟩ := List.append_of_mem hp
  exact ⟨p :: (before ++ rest), List.perm_middle.symm, conditionsOf_head hd h _⟩

/-- Filters come to what the first of them answers that ends the reading, and to conditions if none
does. -/
theorem conditionsOf_ends (hd : d.Accepted) (hm : (TableSchema.ofDescriptor d).Makes tbl)
    (l : List (String × Value)) :
    (∃ p ∈ l, ∃ a, d.Ends p a ∧ conditionsOf d (.ofDescriptor d) l = a.answer d p.1) ∨
      (∀ p ∈ l, ∀ a, ¬ d.Ends p a) ∧
        ∃ found, conditionsOf d (.ofDescriptor d) l = .ok (some found) ∧
          d.Selects tbl l (some found) := by
  induction l with
  | nil => exact .inr ⟨by simp, [], rfl, Descriptor.selects_nil⟩
  | cons p rest ih =>
    by_cases hends : ∃ a, d.Ends p a
    · obtain ⟨a, ha⟩ := hends
      exact .inl ⟨p, List.mem_cons_self .., a, ha, conditionsOf_head hd ha rest⟩
    · have hnone := not_exists.mp hends
      obtain ⟨c, hc, hreads⟩ := condition_reads hd hm hnone
      rcases ih with ⟨q, hq, a, ha, hrest⟩ | ⟨hrest, found, hfound, hselects⟩
      · refine .inl ⟨q, List.mem_cons_of_mem _ hq, a, ha, ?_⟩
        rw [conditionsOf, hc, ok_bind, hrest]
        cases a <;> rfl
      · refine .inr ⟨List.forall_mem_cons.mpr ⟨hnone, hrest⟩, c :: found, ?_, .cons hreads hselects⟩
        rw [conditionsOf, hc, ok_bind, hfound]
        rfl

/-- Conditions of the same filters select the same rows. -/
theorem matching_congr (hw : ∀ row ∈ tbl.rows,
      row.length = (TableSchema.ofDescriptor d).columns.length) {l l' : List (String × Value)}
    (hl : ∀ p, p ∈ l ↔ p ∈ l') {found found' : List Condition}
    (h : d.Selects tbl l (some found)) (h' : d.Selects tbl l' (some found')) :
    tbl.matching found = tbl.matching found' := by
  have hsome : ∀ (c : List Condition) (row : Row),
      (∃ c', some c = some c' ∧ ∀ x ∈ c', tbl.meets row x = true) ↔
        c.all (tbl.meets row) = true := by
    simp
  refine List.filter_congr fun row hrow => ?_
  rw [Bool.eq_iff_iff, ← hsome, ← hsome, h.rows row (hw row hrow), h'.rows row (hw row hrow)]
  simp only [hl]

/-! ## Readings -/

variable {e : Registered} {s : Store} {α : Type} {operation : String} {empty : α}
  {query : List Condition → Database → Except Failure (Database × α)}

/-- A reading once its table is there: it takes its filters for conditions and then asks the table,
unless no record can meet them. -/
def consult (e : Registered) (operation : String) (empty : α)
    (query : List Condition → Database → Except Failure (Database × α))
    (entries : List (String × Value)) : Action α := do
  match ← Action.ofExcept (conditionsOf e.descriptor e.schema entries) with
  | none => return empty
  | some found => transaction e.schema.name operation (query found)

/-- A query that depends on its conditions by the rows that they select, and knows its columns. -/
structure Selective (e : Registered) (s : Store) (tbl : Table)
    (query : List Condition → Database → Except Failure (Database × α)) : Prop where
  alike : ∀ db, s.database? = some db → ∀ found found',
    (∀ c ∈ found, tbl.hasColumn c.column = true) → (∀ c ∈ found', tbl.hasColumn c.column = true) →
      tbl.matching found = tbl.matching found' → query found db = query found' db
  known : ∀ db, s.database? = some db → ∀ found, (∀ c ∈ found, tbl.hasColumn c.column = true) →
    ∀ k entity columns, query found db ≠ .error (.fieldNotFound k entity columns)

section Consult

variable {l entries : List (String × Value)}

/-- What a reading answers that ends at a filter. -/
theorem consult_ended (hl : conditionsOf e.descriptor e.schema l = a.answer e.descriptor p.1) :
    (consult e operation empty query l).on s =
      ((a.answer e.descriptor p.1 : Except Failure (Option α)).map fun _ => empty, s) := by
  simp only [consult, Action.on_bind, Action.on_ofExcept, hl]
  cases a <;> rfl

theorem consult_asks {found : List Condition}
    (hl : conditionsOf e.descriptor e.schema l = .ok (some found)) :
    (consult e operation empty query l).on s =
      (transaction e.schema.name operation (query found)).on s := by
  simp only [consult, Action.on_bind, Action.on_ofExcept, hl]

/-- A reading that ends at a filter tells that there is no such column where it ends for that. -/
theorem unknown_iff (hp : e.descriptor.Ends p a)
    (hl : conditionsOf e.descriptor e.schema l = a.answer e.descriptor p.1) :
    (∃ k, ((consult e operation empty query l).on s).1 =
      .error (.fieldNotFound k e.descriptor.name e.descriptor.columnNames)) ↔ a = .unknown := by
  rw [consult_ended hl]
  cases hp with
  | unknown => exact iff_of_true ⟨p.1, rfl⟩ rfl
  | impossible => simp [Ending.answer, Except.map]
  | failed f _ _ hf =>
    obtain ⟨kind, message, rfl⟩ := failsPlainly_sought e.descriptor p.1 p.2 f hf
    simp [Ending.answer, Except.map]

/-- A reading that comes to its table knows the columns of its filters. -/
theorem asks_known (h : Ready e s tbl) (hq : Selective e s tbl query) {found : List Condition}
    (hl : conditionsOf e.descriptor e.schema l = .ok (some found))
    (hs : e.descriptor.Selects tbl l (some found)) (k : String) :
    ((consult e operation empty query l).on s).1 ≠
      .error (.fieldNotFound k e.descriptor.name e.descriptor.columnNames) := by
  obtain ⟨db, hdb, -⟩ := Option.bind_eq_some_iff.mp h.table
  have hknown := hq.known db hdb found (hs.columns found rfl) k
  rw [consult_asks hl, transaction_reached hdb]
  cases hr : query found db with
  | error f =>
    rintro ⟨⟩
    exact hknown _ _ hr
  | ok r => simp

/-- Readings that come to their table by the same filters come to the same. -/
theorem asks_alike (h : Ready e s tbl) (hq : Selective e s tbl query)
    (hl : ∀ p, p ∈ l ↔ p ∈ entries) {found found' : List Condition}
    (hfound : conditionsOf e.descriptor e.schema l = .ok (some found))
    (hfound' : conditionsOf e.descriptor e.schema entries = .ok (some found'))
    (hs : e.descriptor.Selects tbl l (some found))
    (hs' : e.descriptor.Selects tbl entries (some found')) :
    (consult e operation empty query l).on s = (consult e operation empty query entries).on s := by
  obtain ⟨db, hdb, -⟩ := Option.bind_eq_some_iff.mp h.table
  rw [consult_asks hfound, consult_asks hfound', transaction_reached hdb, transaction_reached hdb,
    hq.alike db hdb found found' (hs.columns found rfl) (hs'.columns found' rfl)
      (matching_congr h.fits hl hs hs')]

/-- Filters that end a reading in one way end it so in any order. -/
theorem unordered_of_uniform (hd : e.descriptor.Accepted) (h : Ready e s tbl)
    (hq : Selective e s tbl query) (hu : e.descriptor.Uniform entries) :
    e.descriptor.Unordered entries fun l => (consult e operation empty query l).on s := by
  have hends := conditionsOf_ends hd h.makes
  constructor
  · intro l hl
    rcases hends l with ⟨p, hp, a, ha, hcond⟩ | ⟨hnone, found, hfound, hs⟩
    · rw [unknown_iff ha hcond]
      constructor
      · rintro rfl
        cases ha with
        | unknown hstray => exact ⟨p, hl.mem_iff.mp hp, hstray⟩
      · rintro ⟨q, hq, hstray⟩
        exact hu p (hl.mem_iff.mp hp) q hq a .unknown ha (.unknown hstray)
    · refine iff_of_false ?_ ?_
      · rintro ⟨k, hk⟩
        exact asks_known h hq hfound hs k hk
      · rintro ⟨q, hq, hstray⟩
        exact hnone q (hl.mem_iff.mpr hq) .unknown (.unknown hstray)
  · intro hknown l hl
    rcases hends l with ⟨p, hp, a, ha, hcond⟩ | ⟨hnone, found, hfound, hs⟩ <;>
      rcases hends entries with ⟨q, hq, b, hb, hcond'⟩ | ⟨hnone', found', hfound', hs'⟩
    · -- both end at a filter, and the endings are one
      obtain rfl := hu p (hl.mem_iff.mp hp) q hq a b ha hb
      have hne : a ≠ .unknown := by
        rintro rfl
        cases ha with
        | unknown hstray => exact hstray (hknown p (hl.mem_iff.mp hp))
      simp only [consult_ended hcond, consult_ended hcond', Ending.answer_congr hne p.1 q.1]
    · exact absurd ha (hnone' p (hl.mem_iff.mp hp) a)
    · exact absurd hb (hnone q (hl.mem_iff.mpr hq) b)
    · exact asks_alike h hq (fun p => hl.mem_iff) hfound hfound' hs hs'

/-- Filters that end a reading in two ways end it in either, by which of them stands in front. -/
theorem uniform_of_unordered (hd : e.descriptor.Accepted)
    (hu : e.descriptor.Unordered entries fun l => (consult e operation empty query l).on s) :
    e.descriptor.Uniform entries := by
  intro p hp q hq a b ha hb
  obtain ⟨l, hl, hcond⟩ := conditionsOf_front hd ha hp
  obtain ⟨l', hl', hcond'⟩ := conditionsOf_front hd hb hq
  have hfirst := (unknown_iff ha hcond).symm.trans (hu.unknown l hl)
  have hsecond := (unknown_iff hb hcond').symm.trans (hu.unknown l' hl')
  by_cases hstray : ∃ p ∈ entries, p.1 ∉ e.descriptor.columnNames
  · rw [hfirst.mpr hstray, hsecond.mpr hstray]
  · have hknown : ∀ p ∈ entries, p.1 ∈ e.descriptor.columnNames := by
      simpa using hstray
    have hsame := (hu.same hknown l hl).trans (hu.same hknown l' hl').symm
    simp only [consult_ended hcond, consult_ended hcond'] at hsame
    exact Ending.eq_of_answer (mt hfirst.mp hstray) (mt hsecond.mp hstray) (congrArg Prod.fst hsame)

end Consult

/-! ## Counts and pages -/

theorem Ready.found (h : Ready e s tbl) {db : Database} (hdb : s.database? = some db) :
    db.table? e.schema.denotedName = some tbl := (table_of_database hdb).symm.trans h.table

/-- The query of a count. -/
def countQuery (e : Registered) (found : List Condition) (db : Database) :
    Except Failure (Database × ℕ) := do
  return (db, ← asOperation e.schema.name "count" (db.count e.schema.denotedName found))

theorem count_consult (h : s.isApplied e = true) (entries : List (String × Value)) :
    (count e (.mapping entries)).on s =
      (consult e "count" 0 (countQuery e) entries).on s := by
  unfold count
  rw [Action.on_bind_ok (ensure_applied h)]
  rfl

theorem selective_count (h : Ready e s tbl) : Selective e s tbl (countQuery e) := by
  have hquery : ∀ db, s.database? = some db → ∀ found,
      (∀ c ∈ found, tbl.hasColumn c.column = true) →
        countQuery e found db = .ok (db, (tbl.matching found).length) := by
    intro db hdb found hf
    simp only [countQuery, asOperation, count_reached (h.found hdb) hf, Except.mapError, ok_bind]
    rfl
  refine ⟨fun db hdb found found' hf hf' hrows => ?_, fun db hdb found hf k entity columns => ?_⟩
  · rw [hquery db hdb found hf, hquery db hdb found' hf', hrows]
  · rw [hquery db hdb found hf]
    simp

/-- The query of a page. -/
def pageQuery (e : Registered) (order : SortOrder) (limit offset : ℤ) (found : List Condition)
    (db : Database) : Except Failure (Database × Page) := do
  let (total, records) ← readPage e.schema found order limit offset db
  return (db, ⟨records, total, limit, offset, offset + records.length < total⟩)

theorem get_consult (h : s.isApplied e = true) {request : PageRequest} {n o : ℤ} {c : Column}
    {dir : SortDirection} (hsize : checkPage s.paging request.limit request.offset = .ok (n, o))
    (hcolumn : column e.schema request.orderBy = .ok c)
    (hdir : direction request.direction = .ok dir) (entries : List (String × Value)) :
    (get e { request with filters := .mapping entries }).on s =
      (consult e "get" ⟨[], 0, n, o, false⟩ (pageQuery e ⟨denoted c.name, dir⟩ n o) entries).on s := by
  unfold get
  rw [Action.on_bind_ok (ensure_applied h), Action.on_bind_ok (Action.on_get s)]
  simp only [hsize, hcolumn, hdir, consult, conditions, filterEntries, ok_bind, Action.on_bind,
    Action.on_ofExcept]
  rcases conditionsOf e.descriptor e.schema entries with f | _ | found <;> rfl

theorem selective_page (hd : e.descriptor.Accepted) (h : Ready e s tbl) {order : SortOrder}
    (ho : tbl.hasColumn order.column = true) (n o : ℤ) :
    Selective e s tbl (pageQuery e order n o) := by
  refine ⟨fun db hdb found found' hf hf' hrows => ?_, fun db hdb found hf k entity columns => ?_⟩
  · rw [pageQuery, pageQuery, readPage_reached (h.found hdb) h.makes h.fits hf order ho,
      readPage_reached (h.found hdb) h.makes h.fits hf' order ho, hrows]
  · rw [pageQuery, readPage_reached (h.found hdb) h.makes h.fits hf order ho]
    split
    · simp
    · obtain ⟨records, hrecords⟩ := h.page_records hd order found o.toNat n.toNat
      rw [hrecords]
      simp [Except.map]

/-- A page can be cut as it is asked for: it has a size and a start, a column to sort by and a
direction. -/
def Sorts (e : Registered) (paging : Paging) (request : PageRequest) : Prop :=
  ∃ n o c dir, checkPage paging request.limit request.offset = .ok (n, o) ∧
    column e.schema request.orderBy = .ok c ∧ direction request.direction = .ok dir

theorem column_member {t : TableSchema} {name : Value} {c : Column} (h : column t name = .ok c) :
    c ∈ t.columns := by
  cases name with
  | text s =>
    simp only [column] at h
    split at h
    · rename_i found
      cases h
      exact List.mem_of_find?_eq_some found
    · cases h
  | _ => cases h

/-- What a reading makes of the order of its filters. Where it does not come to them they make no
difference at all. -/
structure Weighs (d : Descriptor) (entries : List (String × Value)) (comes : Prop)
    (read : List (String × Value) → Except Failure α × Store) : Prop where
  apart : ¬ comes → ∀ a b, read a = read b
  order : comes → (d.Unordered entries read ↔ d.Uniform entries)

theorem unordered_congr {entries : List (String × Value)}
    {read read' : List (String × Value) → Except Failure α × Store} (h : ∀ l, read l = read' l) :
    d.Unordered entries read ↔ d.Unordered entries read' := by
  rw [funext h]

/-- Counts and the order of their filters. -/
theorem count_weighs (hd : e.descriptor.Accepted)
    (hready : ∀ t ready, (ensure e).on s = (.ok t, ready) → ∃ tbl, Ready e ready tbl)
    (entries : List (String × Value)) :
    Weighs e.descriptor entries (((ensure e).on s).1.isOk = true)
      fun l => (count e (.mapping l)).on s := by
  constructor
  · intro hfails a b
    rcases he : (ensure e).on s with ⟨f | t, after⟩
    · exact (Action.on_bind_error he).trans (Action.on_bind_error he).symm
    · rw [he] at hfails
      exact absurd rfl hfails
  · intro hok
    obtain ⟨t, ready, he⟩ := Action.exists_of_isOk hok
    obtain ⟨tbl, h⟩ := hready t ready he
    have hread : ∀ l, (count e (.mapping l)).on s = (consult e "count" 0 (countQuery e) l).on ready :=
      fun l => (on_ready he _).trans (count_consult h.applied l)
    rw [unordered_congr hread]
    exact ⟨uniform_of_unordered hd, unordered_of_uniform hd h (selective_count h)⟩

/-- Pages and the order of their filters. -/
theorem get_weighs (hd : e.descriptor.Accepted)
    (hready : ∀ t ready, (ensure e).on s = (.ok t, ready) →
      ready.paging = s.paging ∧ ∃ tbl, Ready e ready tbl)
    (entries : List (String × Value)) (request : PageRequest) :
    Weighs e.descriptor entries (((ensure e).on s).1.isOk = true ∧ Sorts e s.paging request)
      fun l => (get e { request with filters := .mapping l }).on s := by
  constructor
  · intro hfails a b
    rcases he : (ensure e).on s with ⟨f | t, ready⟩
    · exact (Action.on_bind_error he).trans (Action.on_bind_error he).symm
    · obtain ⟨hpaging, tbl, h⟩ := hready t ready he
      obtain rfl := (ensure_spec he).2 t rfl
      have hsorts : ¬ Sorts e ready.paging request := by
        rw [hpaging]
        exact fun h => hfails ⟨by rw [he]; rfl, h⟩
      simp only [get, Action.on_bind_ok he, Action.on_bind_ok (Action.on_get ready), Action.on_bind,
        Action.on_ofExcept]
      -- the part of the page that is wrong ends the reading before it comes to the filters
      cases hsize : checkPage ready.paging request.limit request.offset with
      | error f => rfl
      | ok size =>
        cases hcolumn : column e.schema request.orderBy with
        | error f => rfl
        | ok c =>
          cases hdir : direction request.direction with
          | error f => rfl
          | ok dir => exact absurd ⟨size.1, size.2, c, dir, hsize, hcolumn, hdir⟩ hsorts
  · rintro ⟨hok, n, o, c, dir, hsize, hcolumn, hdir⟩
    obtain ⟨t, ready, he⟩ := Action.exists_of_isOk hok
    obtain ⟨hpaging, tbl, h⟩ := hready t ready he
    have hread : ∀ l, (get e { request with filters := .mapping l }).on s =
        (consult e "get" ⟨[], 0, n, o, false⟩ (pageQuery e ⟨denoted c.name, dir⟩ n o) l).on ready :=
      fun l => (on_ready he _).trans (get_consult h.applied (hpaging ▸ hsize) hcolumn hdir l)
    rw [unordered_congr hread]
    have ho := Table.hasColumn_denoted h.makes.1 h.makes.2 (column_member hcolumn)
    exact ⟨uniform_of_unordered hd, unordered_of_uniform hd h (selective_page hd h ho n o)⟩

/-- After any run on a new table, counts and pages do not depend on the order of their filters
exactly if no two of the filters end the reading in different ways. -/
theorem filters_unordered_iff {s₀ : Store} {steps : List Step} (hd : e.descriptor.Accepted)
    (hf : Fresh e s₀) (hs : s = (EntityStore.run e steps s₀).2) (entries : List (String × Value)) :
    Weighs e.descriptor entries (((ensure e).on s).1.isOk = true)
        (fun l => (count e (.mapping l)).on s) ∧
      ∀ request : PageRequest, Weighs e.descriptor entries
        (((ensure e).on s).1.isOk = true ∧ Sorts e s.paging request)
        (fun l => (get e { request with filters := .mapping l }).on s) := by
  have hready : ∀ t ready, (ensure e).on s = (.ok t, ready) →
      ready.paging = s.paging ∧ ∃ tbl, Ready e ready tbl := by
    intro t ready he
    subst hs
    obtain ⟨tbl, h, -, hpaging⟩ := hf.ready hd steps he
    exact ⟨hpaging, tbl, h⟩
  exact ⟨count_weighs hd (fun t ready he => (hready t ready he).2) entries,
    get_weighs hd hready entries⟩

/-- The first of two records of one label is found by its id and its label in either order. -/
theorem label_reordered : labelled.descriptor.Accepted ∧ Fresh labelled inMemory ∧
    ((ensure labelled).on (EntityStore.run labelled twoLabels inMemory).2).1.isOk = true ∧
    labelled.descriptor.Uniform
      [("id", .text "00000000-0000-4000-8000-000000000001"), ("label", .text "a")] ∧
    (count labelled (.mapping
      [("label", .text "a"), ("id", .text "00000000-0000-4000-8000-000000000001")])).on
        (EntityStore.run labelled twoLabels inMemory).2 =
      (count labelled (.mapping
        [("id", .text "00000000-0000-4000-8000-000000000001"), ("label", .text "a")])).on
          (EntityStore.run labelled twoLabels inMemory).2 := by
  have hd : labelled.descriptor.Accepted := by
    unfold Descriptor.Accepted
    rfl
  have hok : ((ensure labelled).on (EntityStore.run labelled twoLabels inMemory).2).1.isOk = true := by
    decide +kernel
  have hid : ∀ a, ¬ labelled.descriptor.Ends
      ("id", .text "00000000-0000-4000-8000-000000000001") a := fun a =>
    not_ends (by decide) rfl
  have hlabel : ∀ a, ¬ labelled.descriptor.Ends ("label", .text "a") a := fun a =>
    not_ends (by decide) rfl
  have hu : labelled.descriptor.Uniform
      [("id", .text "00000000-0000-4000-8000-000000000001"), ("label", .text "a")] := by
    intro p hp q _ a b ha _
    simp only [List.mem_cons, List.not_mem_nil, or_false] at hp
    rcases hp with rfl | rfl
    · exact absurd ha (hid a)
    · exact absurd ha (hlabel a)
  have hw := (@filters_unordered_iff labelled _ inMemory twoLabels hd (fresh_inMemory labelled) rfl
    [("id", .text "00000000-0000-4000-8000-000000000001"), ("label", .text "a")]).1
  exact ⟨hd, fresh_inMemory labelled, hok, hu,
    ((hw.order hok).mpr hu).same (by decide) _ (.swap ..)⟩

/-- The column that a reading does not know, the entity, and the columns that it has. -/
def unknownColumn? {α : Type} : Except Failure α → Option (String × String × List String)
  | .error (.fieldNotFound k entity columns) => some (k, entity, columns)
  | _ => none

theorem of_unknownColumn? {r : Except Failure α} {k entity : String} {columns : List String}
    (h : unknownColumn? r = some (k, entity, columns)) :
    r = .error (.fieldNotFound k entity columns) := by
  unfold unknownColumn? at h
  split at h <;> cases h
  rfl

/-- A label that is no text and a column that is not there: whichever comes first decides. -/
theorem order_decides : labelled.descriptor.Accepted ∧ Fresh labelled inMemory ∧
    [("label", Value.int 5), ("zzz", .int 1)].Perm [("zzz", .int 1), ("label", .int 5)] ∧
    ((count labelled (.mapping [("label", .int 5), ("zzz", .int 1)])).on inMemory).1 = .ok 0 ∧
    ((count labelled (.mapping [("zzz", .int 1), ("label", .int 5)])).on inMemory).1 =
      .error (.fieldNotFound "zzz" "t" ["id", "created_at", "updated_at", "label"]) := by
  refine ⟨?_, fresh_inMemory labelled, .swap .., ok_of_toOption (by decide +kernel),
    of_unknownColumn? (by decide +kernel)⟩
  unfold Descriptor.Accepted
  rfl

end Store

end EntityStore
