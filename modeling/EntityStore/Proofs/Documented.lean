import EntityStore.Proofs.Escaping
import EntityStore.Proofs.Moves
import EntityStore.Proofs.Reordering

/-! # How a page fails

A reading of a page is documented to fail for a column that is not there, for a query that is none, or
for the storage. It fails in other ways by what is not foreseen: a filter whose value is a moment
outside of the calendar or comes to a bound that is no number, and a size or a start that the database
cannot hold.
-/
namespace EntityStore

open Database

/-! ## Documented failures -/

namespace Failure

/-- Failures of the storage, of whatever kind. -/
def IsStorage : Failure → Prop
  | uniqueViolation .. | schemaSync .. => True
  | noted kind .. => kind = .storage ∨ kind = .connection ∨ kind = .timeout
  | _ => False

end Failure

section Documented

variable {α : Type} {f : Failure}

end Documented

/-! ## Filters -/

namespace Descriptor

variable {d : Descriptor} {p : String × Value}

/-- A filter asks for what records can hold: it names a column, and holds null or a value of it. -/
def Holds (d : Descriptor) (p : String × Value) : Prop :=
  p.1 ∈ d.columnNames ∧ (p.2 = .null ∨ ∃ x, d.Normal p.1 p.2 x)

end Descriptor

section Filters

variable {d : Descriptor} {p : String × Value}

/-- A filter asks for what records can hold exactly if it does not end a reading. -/
theorem holds_iff (hd : d.Accepted) (hv : ∃ v, Validator.ofDescriptor d = .ok v) :
    d.Holds p ↔ ∀ a, ¬ d.Ends p a := by
  constructor
  · rintro ⟨hn, hnull | ⟨x, hx⟩⟩
    · rintro a (hstray | ⟨-, hfilled, -⟩ | ⟨f, -, hfilled, -⟩)
      · exact hstray hn
      · exact hfilled hnull
      · exact hfilled hnull
    · exact fun a => Store.not_ends hn (Store.sought_of_normal hd hv hx)
  · intro h
    have hn : p.1 ∈ d.columnNames := by
      by_contra hstray
      exact h _ (.unknown hstray)
    refine ⟨hn, ?_⟩
    by_cases hnull : p.2 = .null
    · exact .inl hnull
    · cases hs : Store.sought d p.1 p.2 with
      | error f => exact absurd (.failed f hn hnull hs) (h _)
      | ok found =>
        cases found with
        | impossible => exact absurd (.impossible hn hnull hs) (h _)
        | value x => exact .inr ⟨x, (Store.sought_iff hd hn hs).mp rfl⟩

end Filters

/-! ## The first filter that ends a reading -/

namespace Descriptor

/-- A filter with a property stands behind filters that ask for what records can hold. -/
def First (d : Descriptor) (P : String × Value → Prop) (entries : List (String × Value)) : Prop :=
  ∃ before p after, entries = before ++ p :: after ∧ (∀ q ∈ before, d.Holds q) ∧ P p

end Descriptor

section First

variable {d : Descriptor} {tbl : Table} {entries : List (String × Value)}

/-- Filters in front that records can hold do not keep a reading from its end. -/
theorem conditionsOf_first (hd : d.Accepted) (hv : ∃ v, Validator.ofDescriptor d = .ok v)
    (hm : (TableSchema.ofDescriptor d).Makes tbl) {before after : List (String × Value)}
    {p : String × Value} {a : Ending} (hbefore : ∀ q ∈ before, d.Holds q) (hp : d.Ends p a) :
    Store.conditionsOf d (.ofDescriptor d) (before ++ p :: after) = a.answer d p.1 := by
  induction before with
  | nil => exact Store.conditionsOf_head hd hp after
  | cons q before ih =>
    obtain ⟨hq, hrest⟩ := List.forall_mem_cons.mp hbefore
    obtain ⟨c, hc, -⟩ := Store.condition_reads hd hm ((holds_iff hd hv).mp hq)
    rw [List.cons_append, Store.conditionsOf, hc, ok_bind, ih hrest]
    cases a <;> rfl

end First

/-! ## The storage -/

namespace Store

variable {e : Registered} {s : Store}

/-- A store whose link is one to a file or to memory. -/
structure OnSqlite (s : Store) : Prop where
  link : Link.ofSettings s.link.settings = .ok s.link
  dialect : s.link.dialect = .sqlite

/-- Such a link has a URL of its own, which can be read. -/
theorem OnSqlite.target (h : s.OnSqlite) :
    ∃ u, s.link.settings.target s.files = .ok u ∧ s.link.settings.openTarget = .ok u := by
  have hlink := h.link
  unfold Link.ofSettings Settings.backend at hlink
  obtain ⟨backend, hbackend, hlink⟩ := bind_ok.mp hlink
  obtain ⟨u, hu, rfl⟩ := map_ok.mp hbackend
  have hword : Dialect.ofWord? u.backend = some .sqlite := by
    cases hw : Dialect.ofWord? u.backend with
    | none =>
      rw [hw] at hlink
      cases hlink
    | some dialect =>
      simp only [hw, pure, Except.pure, Except.ok.injEq] at hlink
      rw [← h.dialect, ← hlink]
  refine ⟨u, ?_, hu⟩
  unfold Settings.openTarget Settings.targetWith at hu
  unfold Settings.target Settings.targetWith
  cases hurl : s.link.settings.url.filter (! ·.isEmpty) with
  | some url =>
    simp only [hurl] at hu ⊢
    exact hu
  | none =>
    simp only [hurl, Except.map, Except.ok.injEq] at hu
    have hserver : Dialect.ofWord? (String.ofList ("postgresql+psycopg".toList.takeWhile (· ≠ '+'))) ≠
        some .sqlite := by decide
    rw [← hu] at hword
    exact absurd hword hserver

/-- An engine that cannot be made is told as a failure to connect. -/
theorem OnSqlite.engineTarget (h : s.OnSqlite) :
    FailsOnly Failure.IsStorage (s.link.engineTarget s.files) := by
  obtain ⟨u, hu, -⟩ := h.target
  refine failsOnly_engineTarget ?_ fun _ => .inr (.inl rfl)
  rw [hu]
  exact failsOnly_ok u

theorem OnSqlite.ensure (h : s.OnSqlite) : FailsOnly Failure.IsStorage ((ensure e).on s).1 :=
  failsOnly_ensure h.engineTarget fun _ => trivial

/-- No run changes the link of a store. -/
theorem link_run (steps : List Step) : (EntityStore.run e steps s).2.link = s.link := by
  refine run_induction (P := fun t => t.link = s.link) ?_ rfl steps
  intro t ht step
  have hmatch := (deed_matches (e := e) (s := t) (R := fun _ _ => True) (fun _ => trivial)
    (fun _ _ _ _ _ => trivial) (fun _ _ => trivial) (fun _ _ => trivial) (.call step)).1
  exact hmatch.link.symm.trans ht

theorem OnSqlite.run (h : s.OnSqlite) (steps : List Step) :
    (EntityStore.run e steps s).2.OnSqlite := by
  constructor <;> rw [link_run]
  · exact h.link
  · exact h.dialect

/-! ## Pages -/

/-- A reading comes to its filters: the table is there, and the size, the start, the column to sort by
and the direction are ones that there are. -/
structure Comes (e : Registered) (s : Store) (request : PageRequest) (n o : ℤ) : Prop where
  table : ((Store.ensure e).on s).1.isOk = true
  size : checkPage s.paging request.limit request.offset = .ok (n, o)
  column : ∃ c, column e.schema request.orderBy = .ok c
  direction : ∃ dir, direction request.direction = .ok dir

section Pages

variable {request : PageRequest} {entries : List (String × Value)} {n o : ℤ}

/-- A reading that comes to its filters consults its table by them. -/
theorem Comes.consults (h : Comes e s request n o)
    (hready : ∀ t ready, (Store.ensure e).on s = (.ok t, ready) →
      ready.paging = s.paging ∧ ∃ tbl, Ready e ready tbl) :
    ∃ ready tbl order, Ready e ready tbl ∧ tbl.hasColumn order.column = true ∧
      ∀ entries, (get e { request with filters := .mapping entries }).on s =
        (consult e "get" ⟨[], 0, n, o, false⟩ (pageQuery e order n o) entries).on ready := by
  obtain ⟨t, ready, he⟩ := Action.exists_of_isOk h.table
  obtain ⟨hpaging, tbl, hr⟩ := hready t ready he
  obtain ⟨c, hcolumn⟩ := h.column
  obtain ⟨dir, hdir⟩ := h.direction
  exact ⟨ready, tbl, ⟨denoted c.name, dir⟩, hr,
    Table.hasColumn_denoted hr.makes.1 hr.makes.2 (column_member hcolumn), fun entries =>
      (on_ready he _).trans (get_consult hr.applied (hpaging ▸ h.size) hcolumn hdir entries)⟩

/-- A page by filters of values that records can hold is told, unless its size or its start is too
large for the database. -/
theorem consult_holding {ready : Store} {tbl : Table} {order : SortOrder} {empty : Page}
    (hd : e.descriptor.Accepted) (hv : ∃ v, Validator.ofDescriptor e.descriptor = .ok v)
    (hr : Ready e ready tbl) (ho : tbl.hasColumn order.column = true)
    (hentries : ∀ p ∈ entries, e.descriptor.Holds p) :
    if Cell.fitsInt n = true ∧ Cell.fitsInt o = true then
      ∃ page, ((consult e "get" empty (pageQuery e order n o) entries).on ready).1 = .ok page
    else ((consult e "get" empty (pageQuery e order n o) entries).on ready).1 =
      .error (.plain .overflow BindFault.hugeInteger.message) := by
  obtain ⟨db, hdb, -⟩ := Option.bind_eq_some_iff.mp hr.table
  rcases conditionsOf_ends hd hr.makes entries with ⟨p, hp, a, ha, -⟩ | ⟨-, found, hfound, hselects⟩
  · exact absurd ha ((holds_iff hd hv).mp (hentries p hp) a)
  · obtain ⟨records, hrecords⟩ := hr.page_records hd order found o.toNat n.toNat
    rw [consult_asks hfound, transaction_reached hdb, pageQuery,
      readPage_reached (hr.found hdb) hr.makes hr.fits (hselects.columns found rfl) order ho, hrecords]
    by_cases hfits : Cell.fitsInt n = true ∧ Cell.fitsInt o = true
    · rw [if_pos hfits]
      simp [hfits, Except.map]
    · rw [if_neg hfits]
      rw [if_pos (not_and_or.mp hfits)]
      rfl

/-- A reading ends at the first filter that asks for something else. -/
theorem Comes.ended {P : String × Value → Prop} (h : Comes e s request n o)
    (hd : e.descriptor.Accepted) (hv : ∃ v, Validator.ofDescriptor e.descriptor = .ok v)
    (hready : ∀ t ready, (Store.ensure e).on s = (.ok t, ready) →
      ready.paging = s.paging ∧ ∃ tbl, Ready e ready tbl) (hfirst : e.descriptor.First P entries) :
    ∃ p, P p ∧ ∀ a, e.descriptor.Ends p a →
      ((get e { request with filters := .mapping entries }).on s).1 =
        (a.answer e.descriptor p.1 : Except Failure (Option Page)).map fun _ =>
          ⟨[], 0, n, o, false⟩ := by
  obtain ⟨before, p, after, rfl, hbefore, hP⟩ := hfirst
  obtain ⟨ready, tbl, order, hr, -, hget⟩ := h.consults hready
  refine ⟨p, hP, fun a ha => ?_⟩
  rw [hget, consult_ended (conditionsOf_first hd hv hr.makes hbefore ha)]

section Accounts

variable (hd : e.descriptor.Accepted) (hv : ∃ v, Validator.ofDescriptor e.descriptor = .ok v)
  (hready : ∀ t ready, (Store.ensure e).on s = (.ok t, ready) →
    ready.paging = s.paging ∧ ∃ tbl, Ready e ready tbl)
include hd hv hready

theorem Comes.held (h : Comes e s request n o) (hholds : ∀ p ∈ entries, e.descriptor.Holds p) :
    if Cell.fitsInt n = true ∧ Cell.fitsInt o = true then
      ∃ page, ((get e { request with filters := .mapping entries }).on s).1 = .ok page
    else ((get e { request with filters := .mapping entries }).on s).1 =
      .error (.plain .overflow BindFault.hugeInteger.message) := by
  obtain ⟨ready, tbl, order, hr, ho, hget⟩ := h.consults hready
  rw [hget]
  exact consult_holding hd hv hr ho hholds

end Accounts

end Pages

end Store

end EntityStore
