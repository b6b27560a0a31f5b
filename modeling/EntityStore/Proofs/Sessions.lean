import EntityStore.Proofs.Calls

/-! # Sessions over many entities

Many entities, and several versions of one entity, are kept in one database. Whatever is done for
them, a table keeps the columns and the keys with which the first version of its name made it. A
later version is told that its table is there, also where that table lacks what it asks for.
-/
namespace EntityStore

open Database

/-! ## The tables of a database -/

namespace Database

/-- No two of the tables have one name. -/
def Separate (schemas : List TableSchema) : Prop :=
  schemas.Pairwise fun a b => sameName a.name b.name = false

theorem Separate.eq_of_sameName {schemas : List TableSchema} (hs : Separate schemas)
    {a b : TableSchema} (ha : a ∈ schemas) (hb : b ∈ schemas)
    (h : sameName a.name b.name = true) : a = b :=
  Database.eq_of_sameName hs ha hb h

section Joins

variable {t u : TableSchema} {before after : List TableSchema}

theorem Joins.separate (h : Joins t before after) (hs : Separate before) : Separate after := by
  rcases h with rfl | ⟨hnone, rfl⟩
  · exact hs
  · refine List.pairwise_append.mpr ⟨hs, List.pairwise_singleton _ _, ?_⟩
    intro u hu v hv
    rw [List.mem_singleton.mp hv]
    exact hnone u hu

theorem Joins.kept (h : Joins t before after) (hu : u ∈ before) : u ∈ after := by
  rcases h with rfl | ⟨-, rfl⟩
  · exact hu
  · exact List.mem_append_left _ hu

end Joins

section Rows

variable {db after : Database} {table : String}

/-- New rows leave the tables what they are. -/
theorem schemas_putTable (hs : Separate db.schemas) {tbl : Table} (h : db.table? table = some tbl)
    (rows : List Row) : (db.putTable (tbl.withRows rows)).schemas = db.schemas := by
  have hmem : tbl.schema ∈ db.schemas := List.mem_map_of_mem (List.mem_of_find?_eq_some h)
  simp only [schemas, putTable, List.map_map]
  refine List.map_congr_left fun u hu => ?_
  simp only [Function.comp_apply]
  split
  · rename_i hsame
    exact hs.eq_of_sameName hmem (List.mem_map_of_mem hu) (by rwa [sameName_comm])
  · rfl

theorem schemas_insert (hs : Separate db.schemas) {given : Cells} {reported : List String}
    {now : String} {cells : List Cell}
    (h : db.insert table given reported now = .ok (after, cells)) : after.schemas = db.schemas := by
  obtain ⟨tbl, ht, h⟩ := bind_ok.mp h
  simp only at h
  split at h
  · cases h
  · split at h
    · cases h
    · split at h
      · cases h
      · cases h
        exact schemas_putTable hs (findTable_ok ht) _

theorem schemas_update (hs : Separate db.schemas) {id : String} {given : Cells}
    {reported : List String} {now : String} {cells : Option (List Cell)}
    (h : db.update table id given reported now = .ok (after, cells)) :
    after.schemas = db.schemas := by
  obtain ⟨tbl, ht, h⟩ := bind_ok.mp h
  simp only at h
  split at h
  · cases h
  · split at h
    · cases h
    · cases h
      rfl
    · split at h
      · cases h
      · cases h
        exact schemas_putTable hs (findTable_ok ht) _

theorem schemas_delete (hs : Separate db.schemas) {id : String} {wasThere : Bool}
    (h : db.delete table id = .ok (after, wasThere)) : after.schemas = db.schemas := by
  obtain ⟨tbl, ht, h⟩ := bind_ok.mp h
  cases h
  exact schemas_putTable hs (findTable_ok ht) _

end Rows

end Database

namespace Store

open EntityStore.Action

section Records

variable {t : TableSchema} {db after : Database} {given : Record} {stamp : String}

theorem schemas_insertRecord (hs : Separate db.schemas) {record : Record}
    (h : insertRecord t given stamp db = .ok (after, record)) : after.schemas = db.schemas := by
  obtain ⟨cells, row, hrow⟩ := insert_of_record h
  exact schemas_insert hs hrow

theorem schemas_changeRecord (hs : Separate db.schemas) {id : String} {answer : Option Record}
    (h : changeRecord t id given stamp db = .ok (after, answer)) : after.schemas = db.schemas := by
  obtain ⟨cells, row?, hrow⟩ := update_of_record h
  exact schemas_update hs hrow

end Records

variable {e : Registered} {s s' : Store}

theorem table?_isSome_iff : (s.table? e.schema).isSome = true ↔
    ∃ u ∈ s.schemas, sameName u.name e.schema.denotedName = true := by
  unfold Store.table? schemas
  cases s.database? with
  | none => simp
  | some db => simpa using Database.table?_isSome_iff

/-! ## What an action for an entity does to the tables -/

/-- What an action for an entity leaves of the tables, and of the marks of what was applied. -/
structure Widens (e : Registered) (s s' : Store) : Prop where
  schemas : Joins e.schema s.schemas s'.schemas
  made : s'.isApplied e = true → s.isApplied e = true ∨ (s'.table? e.schema).isSome = true
  marked : ∀ p ∈ s'.applied, p ∈ s.applied ∨ p = e.place

/-- A table that is there stays there. -/
theorem Widens.table (h : Widens e s s') {x : Registered}
    (hx : (s.table? x.schema).isSome = true) : (s'.table? x.schema).isSome = true := by
  obtain ⟨u, hu, hname⟩ := table?_isSome_iff.mp hx
  exact table?_isSome_iff.mpr ⟨u, h.schemas.kept hu, hname⟩

/-- The tables and the marks are as they were. -/
theorem widens_same (hs : s'.schemas = s.schemas) (ha : s'.applied = s.applied) :
    Widens e s s' := by
  refine ⟨?_, fun h => .inl ?_, fun p hp => .inl (ha ▸ hp)⟩
  · rw [hs]
    exact .refl _ _
  · rwa [isApplied, ha] at h

theorem Widens.trans {a b c : Store} (h : Widens e a b) (k : Widens e b c) : Widens e a c := by
  refine ⟨h.schemas.trans k.schemas, ?_, ?_⟩
  · intro hc
    rcases k.made hc with hb | hb
    · exact (h.made hb).imp_right k.table
    · exact .inr hb
  · intro p hp
    rcases k.marked p hp with hb | rfl
    · exact h.marked p hb
    · exact .inr rfl

/-- An action widens every store in which no two tables have one name. -/
def Widening {α : Type} (e : Registered) (a : Action α) : Prop :=
  ∀ s s' r, Separate s.schemas → a.on s = (r, s') → Widens e s s'

section Widening

variable {α β : Type}

theorem widening_bind {a : Action α} {f : α → Action β} (ha : Widening e a)
    (hf : ∀ x, Widening e (f x)) : Widening e (a >>= f) := by
  intro s s' r hs h
  rcases hx : a.on s with ⟨failure | x, t⟩
  · rw [on_bind_error hx] at h
    cases h
    exact ha s _ _ hs hx
  · rw [on_bind_ok hx] at h
    have hw := ha s t _ hs hx
    exact hw.trans (hf x t s' r (hw.schemas.separate hs) h)

theorem widening_get : Widening e (MonadState.get : Action Store) := by
  rintro s s' r - ⟨⟩
  exact widens_same rfl rfl

theorem widening_pure (x : α) : Widening e (pure x) := by
  rintro s s' r - ⟨⟩
  exact widens_same rfl rfl

theorem widening_ofExcept (x : Except Failure α) : Widening e (Action.ofExcept x) := by
  intro s s' r _ h
  rw [on_ofExcept] at h
  cases h
  exact widens_same rfl rfl

theorem widening_map {f : α → β} {a : Action α} (ha : Widening e a) : Widening e (f <$> a) := by
  rw [map_eq_pure_bind]
  exact widening_bind ha fun x => widening_pure (f x)

theorem widening_ensure : Widening e (ensure e) := by
  intro s s' r _ h
  obtain ⟨hx, -⟩ := ensure_spec h
  exact ⟨hx.extension.schemas, hx.made, hx.marked⟩

theorem widening_readClock : Widening e readClock := by
  intro s s' r _ h
  rw [readClock_on] at h
  cases hc : s.clock.read <;> rw [hc] at h <;> cases h <;> exact widens_same rfl rfl

theorem widening_issueId : Widening e issueId := by
  rintro s s' r - ⟨⟩
  exact widens_same rfl rfl

/-- A transaction that leaves the tables what they are widens nothing. -/
theorem widening_transaction {entity operation : String}
    {run : Database → Except Failure (Database × α)}
    (h : ∀ db after a, Separate db.schemas → run db = .ok (after, a) →
      after.schemas = db.schemas) :
    Widening e (transaction entity operation run) := by
  intro s s' r hs ht
  rcases transaction_cases ht with ⟨-, rfl⟩ | ⟨db, after, a, hd, hr, -, rfl⟩
  · exact widens_same rfl rfl
  · have hdb : s.schemas = db.schemas := by simp [schemas, hd]
    have hafter : (s.stored after).schemas = after.schemas := by
      simp [schemas, database?_stored hd]
    refine widens_same ?_ (applied_stored s after)
    rw [hafter, hdb, h db after a (hdb ▸ hs) hr]

/-! ## Calls -/

theorem widening_create (data : Value) : Widening e (create e data) := by
  refine widening_bind widening_ensure fun t => ?_
  refine widening_bind (widening_ofExcept _) fun values => ?_
  refine widening_bind widening_readClock fun now => ?_
  refine widening_bind widening_issueId fun id => ?_
  refine widening_bind widening_get fun s => ?_
  exact widening_transaction fun db after a hs h => schemas_insertRecord hs h

theorem widening_update (id data : Value) : Widening e (update e id data) := by
  refine widening_bind widening_ensure fun t => ?_
  refine widening_bind (widening_ofExcept _) fun values => ?_
  cases id.idText? with
  | none => exact widening_pure none
  | some k =>
    refine widening_bind widening_readClock fun now => ?_
    refine widening_bind widening_get fun s => ?_
    exact widening_transaction fun db after a hs h => schemas_changeRecord hs h

theorem widening_delete (id : Value) : Widening e (delete e id) := by
  refine widening_bind widening_ensure fun t => ?_
  cases id.idText? with
  | none => exact widening_pure false
  | some k =>
    exact widening_transaction fun db after a hs h => schemas_delete hs (mapError_ok.mp h)

theorem widening_get_page (request : PageRequest) : Widening e (get e request) := by
  refine widening_bind widening_ensure fun t => ?_
  refine widening_bind widening_get fun s => ?_
  refine widening_bind (widening_ofExcept _) fun size => ?_
  refine widening_bind (widening_ofExcept _) fun sortColumn => ?_
  refine widening_bind (widening_ofExcept _) fun direction => ?_
  refine widening_bind (widening_ofExcept _) fun found? => ?_
  cases found? with
  | none => exact widening_pure _
  | some found =>
    refine widening_transaction fun db after a _ h => ?_
    obtain ⟨page, -, h⟩ := bind_ok.mp h
    cases h
    rfl

theorem widening_getById (id : Value) : Widening e (getById e id) :=
  widening_bind (widening_get_page _) fun page => widening_pure page.records.head?

theorem widening_count (filters : Value) : Widening e (count e filters) := by
  refine widening_bind widening_ensure fun t => ?_
  refine widening_bind (widening_ofExcept _) fun found? => ?_
  cases found? with
  | none => exact widening_pure _
  | some found =>
    refine widening_transaction fun db after a _ h => ?_
    obtain ⟨n, -, h⟩ := bind_ok.mp h
    cases h
    rfl

theorem widening_perform (call : Call) : Widening e (call.perform e) := by
  cases call with
  | create data => exact widening_map (widening_create data)
  | update id data => exact widening_map (widening_update id data)
  | delete id => exact widening_map (widening_delete id)
  | get request => exact widening_map (widening_get_page request)
  | getById id => exact widening_map (widening_getById id)
  | count filters => exact widening_map (widening_count filters)

theorem widens_waited (s : Store) (micros : ℕ) : Widens e s (s.waited micros) := by
  unfold waited advance
  simp only [on_bind, on_get, on_ofExcept]
  cases s.clock.advance micros <;> exact widens_same rfl rfl

end Widening

end Store

/-! ## Entities of one registry -/

/-- The registry keeps the descriptor of an entity at its place. -/
def Registry.Holds (reg : Registry) (e : Registered) : Prop :=
  reg.accepted[e.place]? = some e.descriptor

/-- One place is that of one descriptor. -/
theorem Registry.Holds.descriptor_eq {reg : Registry} {x e : Registered} (hx : reg.Holds x)
    (he : reg.Holds e) (h : x.place = e.place) : x.descriptor = e.descriptor := by
  rw [Holds, h] at hx
  exact Option.some.inj (hx.symm.trans he)

/-- A descriptor that is read has its place, and those before keep theirs. -/
theorem Registry.load_holds {reg after : Registry} {v : Value} {e : Registered}
    (h : reg.load v = .ok (e, after)) : after.Holds e ∧ ∀ x, reg.Holds x → after.Holds x := by
  unfold load at h
  split at h
  · cases h
  · rename_i d _
    split at h
    · rename_i kept hkept
      cases h
      refine ⟨?_, fun x hx => hx⟩
      obtain ⟨⟨found, place⟩, hfound, rfl⟩ := Option.map_eq_some_iff.mp hkept
      exact List.mem_zipIdx_iff_getElem?.mp (List.mem_of_find?_eq_some hfound)
    · split at h
      · cases h
        refine ⟨by simp [Holds], fun x hx => ?_⟩
        exact (List.getElem?_append_left (List.getElem?_eq_some_iff.mp hx).1).trans hx
      · cases h

/-! ## What a table has of what is asked for -/

namespace TableSchema

/-- One table asks for every column and every unique key that another asks for. -/
structure Covers (u t : TableSchema) : Prop where
  columns : ∀ c ∈ t.columns, ∃ d ∈ u.columns, sameName (denoted d.name) (denoted c.name) = true
  keys : ∀ k ∈ t.uniqueKeys, ∃ m ∈ u.uniqueKeys,
    sameName (denoted m.column) (denoted k.column) = true

theorem Covers.refl (t : TableSchema) : t.Covers t :=
  ⟨fun c hc => ⟨c, hc, sameName_refl _⟩, fun k hk => ⟨k, hk, sameName_refl _⟩⟩

/-- A table has every column and every unique key that is asked for. -/
structure Established (t : TableSchema) (tbl : Table) : Prop where
  columns : ∀ c ∈ t.columns, tbl.hasColumn (denoted c.name) = true
  keys : ∀ k ∈ t.uniqueKeys, ∃ m ∈ tbl.schema.uniqueKeys,
    sameName m.column (denoted k.column) = true

/-- A table has what was asked for when it was made. -/
theorem established_iff {u t : TableSchema} {tbl : Table} (h : tbl.schema = u.made) :
    t.Established tbl ↔ u.Covers t := by
  have hcolumn : ∀ name, tbl.hasColumn name = true ↔
      ∃ d ∈ u.columns, sameName (denoted d.name) name = true := by
    intro name
    simp [Table.hasColumn, Table.position?, Table.columns, h, made, rename]
  have hkey : ∀ name, (∃ m ∈ tbl.schema.uniqueKeys, sameName m.column name = true) ↔
      ∃ m ∈ u.uniqueKeys, sameName (denoted m.column) name = true := by
    intro name
    simp [h, made, rename]
  constructor
  · rintro ⟨hc, hk⟩
    exact ⟨fun c hm => (hcolumn _).mp (hc c hm), fun k hm => (hkey _).mp (hk k hm)⟩
  · rintro ⟨hc, hk⟩
    exact ⟨fun c hm => (hcolumn _).mpr (hc c hm), fun k hm => (hkey _).mpr (hk k hm)⟩

end TableSchema

/-! ## Sessions -/

/-- What is done for an entity: its table is ensured, or a call is made after some time. -/
inductive Deed where
  | ensure
  | call (step : Step)

def Deed.after (e : Registered) (s : Store) : Deed → Store
  | ensure => ((Store.ensure e).on s).2
  | call step => (step.run e s).2

/-- What is done on one store, each time for one of many entities. -/
abbrev Session := List (Registered × Deed)

namespace Session

def after (session : Session) (s : Store) : Store :=
  session.foldl (fun s done => done.2.after done.1 s) s

theorem after_concat (session : Session) (e : Registered) (deed : Deed) (s : Store) :
    after (session ++ [(e, deed)]) s = deed.after e (session.after s) := by
  simp [after]

/-- Something that was done for an entity made the table of its name. -/
def Makes (session : Session) (s : Store) (maker : Registered) : Prop :=
  ∃ (earlier : Session) (deed : Deed) (later : Session),
    session = earlier ++ (maker, deed) :: later ∧
    (earlier.after s).table? maker.schema = none ∧
    ((deed.after maker (earlier.after s)).table? maker.schema).isSome = true

theorem Makes.append {session : Session} {s : Store} {maker : Registered}
    (h : session.Makes s maker) (more : Session) : Makes (session ++ more) s maker := by
  obtain ⟨earlier, deed, later, rfl, habsent, hmade⟩ := h
  exact ⟨earlier, deed, later ++ more, by simp, habsent, hmade⟩

theorem Makes.mem {session : Session} {s : Store} {maker : Registered}
    (h : session.Makes s maker) : maker ∈ session.map (·.1) := by
  obtain ⟨earlier, deed, later, rfl, -, -⟩ := h
  simp

end Session

namespace Store

variable {e : Registered} {s₀ s s' : Store} {session : Session}

theorem widens_deed (hs : Separate s.schemas) (deed : Deed) :
    Widens e s (deed.after e s) := by
  cases deed with
  | ensure => exact widening_ensure s _ _ hs rfl
  | call step =>
    have hw := @widens_waited e s step.pause
    exact hw.trans (widening_perform step.call _ _ _ (hw.schemas.separate hs) rfl)

/-- What is known of a store after a session: every table was made for some entity as that one asks,
and an entity that is marked as applied has a table. -/
structure Traced (session : Session) (s₀ s : Store) : Prop where
  separate : Separate s.schemas
  made : ∀ u ∈ s.schemas, ∃ maker, session.Makes s₀ maker ∧ u = maker.schema.made
  marked : ∀ p ∈ s.applied, ∃ x ∈ session.map (·.1), x.place = p ∧
    (s.table? x.schema).isSome = true

/-- What is done for one more entity leaves the tables that are there, and adds one of that entity at
most. -/
theorem Traced.step (h : Traced session s₀ (session.after s₀)) (e : Registered) (deed : Deed) :
    Traced (session ++ [(e, deed)]) s₀ (Session.after (session ++ [(e, deed)]) s₀) := by
  have hw : Widens e (session.after s₀) (deed.after e (session.after s₀)) :=
    widens_deed h.separate deed
  rw [Session.after_concat]
  refine ⟨hw.schemas.separate h.separate, ?_, ?_⟩
  · intro u hu
    have hold : u ∈ (session.after s₀).schemas →
        ∃ maker, Session.Makes (session ++ [(e, deed)]) s₀ maker ∧ u = maker.schema.made := by
      intro hu
      obtain ⟨maker, hm, rfl⟩ := h.made u hu
      exact ⟨maker, hm.append _, rfl⟩
    rcases hw.schemas with hsame | ⟨hnone, hadded⟩
    · exact hold (hsame ▸ hu)
    · rw [hadded] at hu
      rcases List.mem_append.mp hu with hu | hu
      · exact hold hu
      · refine ⟨e, ⟨session, deed, [], rfl, ?_, ?_⟩, List.mem_singleton.mp hu⟩
        · rw [← Option.not_isSome_iff_eq_none, table?_isSome_iff]
          rintro ⟨v, hv, hname⟩
          rw [hnone v hv] at hname
          cases hname
        · refine table?_isSome_iff.mpr ⟨e.schema.made, ?_, sameName_refl _⟩
          rw [hadded]
          exact List.mem_append_right _ (List.mem_singleton_self _)
  · intro p hp
    have hold : p ∈ (session.after s₀).applied → ∃ x ∈ (session ++ [(e, deed)]).map (·.1),
        x.place = p ∧ ((deed.after e (session.after s₀)).table? x.schema).isSome = true := by
      intro hp
      obtain ⟨x, hx, hplace, htable⟩ := h.marked p hp
      refine ⟨x, ?_, hplace, hw.table htable⟩
      rw [List.map_append]
      exact List.mem_append_left _ hx
    rcases hw.marked p hp with hp | rfl
    · exact hold hp
    · rcases hw.made (by simpa [isApplied] using hp) with happlied | htable
      · exact hold (by simpa [isApplied] using happlied)
      · exact ⟨e, by simp, rfl, htable⟩

/-- A store without tables is traced, and remains so whatever is done. -/
theorem traced_after (hnew : s₀.schemas = []) (hunmarked : s₀.applied = []) (session : Session) :
    Traced session s₀ (session.after s₀) := by
  induction session using List.reverseRecOn with
  | nil =>
    refine ⟨?_, ?_, ?_⟩
    · change Separate s₀.schemas
      rw [hnew]
      exact List.Pairwise.nil
    · intro u hu
      change u ∈ s₀.schemas at hu
      simp [hnew] at hu
    · intro p hp
      change p ∈ s₀.applied at hp
      simp [hunmarked] at hp
  | append_singleton session done ih => exact ih.step done.1 done.2

/-- When ensuring an entity answers, its table is there, as the first version of its name made it. The
table has what the entity asks for exactly if that version asks for it too, so certainly if every
version does. -/
theorem ensured_table {reg : Registry} {t : TableSchema} (hnew : s₀.schemas = [])
    (hunmarked : s₀.applied = []) (hreg : ∀ x ∈ e :: session.map (·.1), reg.Holds x)
    (h : (ensure e).on (session.after s₀) = (.ok t, s')) :
    ∃ tbl maker, s'.table? e.schema = some tbl ∧
      Session.Makes (session ++ [(e, .ensure)]) s₀ maker ∧
      sameName maker.schema.denotedName e.schema.denotedName = true ∧
      tbl.schema = maker.schema.made ∧
      (e.schema.Established tbl ↔ maker.schema.Covers e.schema) ∧
      ((∀ x ∈ session.map (·.1), sameName x.schema.denotedName e.schema.denotedName = true →
        x.schema.Covers e.schema) → e.schema.Established tbl) := by
  have hafter : Session.after (session ++ [(e, .ensure)]) s₀ = s' := by
    rw [Session.after_concat, Deed.after, h]
  have htraced := traced_after hnew hunmarked (session ++ [(e, .ensure)])
  rw [hafter] at htraced
  have hmarked : e.place ∈ s'.applied := by
    simpa [isApplied] using (ensure_spec h).1.applied rfl
  -- the mark may be one of an earlier deed, so it is the registry that tells whose table is there
  obtain ⟨x, hx, hplace, htable⟩ := htraced.marked _ hmarked
  have hheld : reg.Holds x := by
    refine hreg x ?_
    simpa [or_comm] using hx
  have hschema : x.schema = e.schema :=
    congrArg TableSchema.ofDescriptor (hheld.descriptor_eq (hreg e (by simp)) hplace)
  rw [hschema] at htable
  obtain ⟨tbl, htbl⟩ := Option.isSome_iff_exists.mp htable
  obtain ⟨db, hdb, hfound⟩ := Option.bind_eq_some_iff.mp htbl
  have hmem : tbl.schema ∈ s'.schemas := by
    simp only [schemas, hdb, Option.map_some, Option.getD_some]
    exact List.mem_map_of_mem (List.mem_of_find?_eq_some hfound)
  obtain ⟨maker, hmaker, hmade⟩ := htraced.made _ hmem
  have hname := List.find?_some hfound
  simp only [Table.name, hmade] at hname
  have hiff := @TableSchema.established_iff maker.schema e.schema tbl hmade
  refine ⟨tbl, maker, htbl, hmaker, hname, hmade, hiff, fun hall => hiff.mpr ?_⟩
  have hmem : maker ∈ e :: session.map (·.1) := by
    simpa [or_comm] using hmaker.mem
  rcases List.mem_cons.mp hmem with rfl | hearlier
  · exact .refl _
  · exact hall maker hearlier hname

/-- An entity with one field. -/
def narrow : Registered := ⟨0, { name := "t", fields := [{ name := "a", kind := .shortText }] }⟩

/-- A later version of the entity, with one more field, whose values are unique. -/
def wide : Registered :=
  ⟨1, { name := "t", fields := [{ name := "a", kind := .shortText },
    { name := "b", kind := .shortText, storage := { unique := true } }] }⟩

/-- Records of the version with more fields. -/
def wideFirst : Session :=
  [(wide, .ensure), (wide, .call ⟨0, .create (.mapping [("a", .text "x"), ("b", .text "y")])⟩)]

theorem wide_covers_narrow : wide.schema.Covers narrow.schema := by
  refine ⟨fun c hc => ⟨c, ?_, sameName_refl _⟩, fun k hk => by cases hk⟩
  have hsub : ∀ c ∈ narrow.schema.columns, c ∈ wide.schema.columns := by decide
  exact hsub c hc

/-- The version with fewer fields finds its columns in the table that the other one made. -/
theorem narrow_established :
    (∀ x ∈ narrow :: wideFirst.map (·.1), Registry.Holds ⟨[narrow.descriptor, wide.descriptor]⟩ x) ∧
    ((ensure narrow).on (wideFirst.after inMemory)).1.isOk = true ∧
    ∃ tbl, ((ensure narrow).on (wideFirst.after inMemory)).2.table? narrow.schema = some tbl ∧
      narrow.schema.Established tbl := by
  have hnew : inMemory.schemas = [] := by decide +kernel
  have hreg : ∀ x ∈ narrow :: wideFirst.map (·.1),
      Registry.Holds ⟨[narrow.descriptor, wide.descriptor]⟩ x := by
    simp [wideFirst, Registry.Holds, narrow, wide]
  have hok : ((ensure narrow).on (wideFirst.after inMemory)).1.isOk = true := by decide +kernel
  refine ⟨hreg, hok, ?_⟩
  obtain ⟨t, s', he⟩ := Action.exists_of_isOk hok
  obtain ⟨tbl, -, htable, -, -, -, -, hall⟩ := ensured_table hnew rfl hreg he
  refine ⟨tbl, by rw [he]; exact htable, hall fun x hx _ => ?_⟩
  have hwide : x = wide := by simpa [wideFirst] using hx
  rw [hwide]
  exact wide_covers_narrow

/-- A table that the version with fewer fields made lacks a column of the other one, which is told all
the same that its table is there. -/
theorem wide_not_established : narrow.descriptor.Accepted ∧ wide.descriptor.Accepted ∧
    ((ensure wide).on (Session.after [(narrow, .ensure)] inMemory)).1.isOk = true ∧
    ∃ tbl, ((ensure wide).on (Session.after [(narrow, .ensure)] inMemory)).2.table? wide.schema =
      some tbl ∧ tbl.hasColumn "b" = false ∧ tbl.schema.uniqueKeys = [] ∧
      ¬ wide.schema.Established tbl := by
  have hok : ((ensure wide).on (Session.after [(narrow, .ensure)] inMemory)).1.isOk = true := by
    decide +kernel
  have htable : ((ensure wide).on (Session.after [(narrow, .ensure)] inMemory)).2.table?
      wide.schema = some ⟨narrow.schema, []⟩ := by decide +kernel
  refine ⟨?_, ?_, hok, ⟨narrow.schema, []⟩, htable, by decide +kernel, rfl, ?_⟩
  · unfold Descriptor.Accepted
    rfl
  · unfold Descriptor.Accepted
    rfl
  · intro h
    have hb : Table.hasColumn ⟨narrow.schema, []⟩ (denoted "b") = true :=
      h.columns ⟨"b", .varchar 255, true, none⟩ (by decide)
    exact absurd hb (by decide +kernel)

end Store

end EntityStore
