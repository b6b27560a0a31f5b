import EntityStore.Proofs.Applying
import EntityStore.Proofs.Planning

/-! # Stores that match

Two stores over one link match if their databases stand in a relation, or if both reach none. Where
the relation tells that one table is seen alike, a call for that table is answered alike on both
stores, and leaves them matching.
-/
namespace EntityStore

open Database

namespace Store

open EntityStore.Action

variable {R S T : Database → Database → Prop} {s s' t t' : Store} {e : Registered}

/-- The databases of two stores stand in a relation, or neither store reaches one. -/
inductive Paired (R : Database → Database → Prop) (s s' : Store) : Prop
  | reached {db db' : Database} (left : s.database? = some db) (right : s'.database? = some db')
    (related : R db db') : Paired R s s'
  | unreached (left : s.database? = none) (right : s'.database? = none) (disk : s.disk = s'.disk) :
    Paired R s s'

structure Matches (R : Database → Database → Prop) (s s' : Store) : Prop where
  link : s.link = s'.link
  files : s.files = s'.files
  paging : s.paging = s'.paging
  databases : Paired R s s'

/-- A store and one that differs from it in what has nothing to do with its database. -/
theorem matches_same (hlink : s.link = t.link) (hfiles : s.files = t.files)
    (hpaging : s.paging = t.paging) (hdatabase : t.database? = s.database?) (hdisk : s.disk = t.disk) :
    Matches Eq s t := by
  refine ⟨hlink, hfiles, hpaging, ?_⟩
  cases hd : s.database? with
  | none => exact .unreached hd (hdatabase.trans hd) hdisk
  | some db => exact .reached hd (hdatabase.trans hd) rfl

theorem Matches.refl (s : Store) : Matches Eq s s := matches_same rfl rfl rfl rfl rfl

theorem matches_opened (s : Store) : Matches Eq s s.opened := matches_same rfl rfl rfl rfl rfl

theorem matches_clock (s : Store) (c : Clock) : Matches Eq s { s with clock := c } :=
  matches_same rfl rfl rfl rfl rfl

/-- Waiting moves the clock, as far as the calendar goes. -/
theorem waited_eq (s : Store) (micros : ℕ) :
    s.waited micros = { s with clock := (s.clock.advance micros).toOption.getD s.clock } := by
  unfold waited advance
  simp only [on_bind, on_get, on_ofExcept]
  cases s.clock.advance micros <;> rfl

theorem matches_stored {db after : Database} (h : s.database? = some db) (hR : R db after) :
    Matches R s (s.stored after) :=
  ⟨by simp, by simp, by simp, .reached h (database?_stored h after) hR⟩

/-- Two stores that match, after something was done on either. -/
theorem Matches.step (h : Matches R s s') (k : Matches S s t) (k' : Matches T s' t')
    {U : Database → Database → Prop}
    (hU : ∀ db db' a a', R db db' → S db a → T db' a' → U a a') : Matches U t t' := by
  refine ⟨k.link.symm.trans (h.link.trans k'.link), k.files.symm.trans (h.files.trans k'.files),
    k.paging.symm.trans (h.paging.trans k'.paging), ?_⟩
  rcases h.databases with ⟨hl, hr, hR⟩ | ⟨hl, hr, hdisk⟩
  · rcases k.databases with ⟨kl, kr, hS⟩ | ⟨kl, -, -⟩
    · rcases k'.databases with ⟨kl', kr', hT⟩ | ⟨kl', -, -⟩
      · cases hl.symm.trans kl
        cases hr.symm.trans kl'
        exact .reached kr kr' (hU _ _ _ _ hR hS hT)
      · cases hr.symm.trans kl'
    · cases hl.symm.trans kl
  · rcases k.databases with ⟨kl, -, -⟩ | ⟨-, kr, kdisk⟩
    · cases hl.symm.trans kl
    · rcases k'.databases with ⟨kl', -, -⟩ | ⟨-, kr', kdisk'⟩
      · cases hr.symm.trans kl'
      · exact .unreached kr kr' (kdisk.symm.trans (hdisk.trans kdisk'))

theorem Matches.reached (h : Matches R s s') {db : Database} (hdb : s.database? = some db) :
    ∃ db', s'.database? = some db' ∧ R db db' := by
  rcases h.databases with ⟨hl, hr, hR⟩ | ⟨hl, -, -⟩
  · cases hdb.symm.trans hl
    exact ⟨_, hr, hR⟩
  · cases hdb.symm.trans hl

theorem Matches.trans (h : Matches R s t) (k : Matches S t t')
    (hT : ∀ db mid after, R db mid → S mid after → T db after) : Matches T s t' :=
  h.step (.refl s) k (by rintro db mid _ after hR rfl hS; exact hT db mid after hR hS)

theorem Matches.clocks (h : Matches R s s') (c c' : Clock) :
    Matches R { s with clock := c } { s' with clock := c' } :=
  h.step (matches_clock s c) (matches_clock s' c') (by rintro db db' _ _ hR rfl rfl; exact hR)

theorem Matches.opened (h : Matches R s s') : Matches R s.opened s'.opened :=
  h.step (matches_opened s) (matches_opened s') (by rintro db db' _ _ hR rfl rfl; exact hR)

/-! ## Calls whose table is there -/

section Calls

variable {name : String} {run : Database → Except Failure (Database × Answer)}

/-- One database is the other with new rows in a table, or as it was. -/
def Rewrites (name : String) (db after : Database) : Prop := ∃ rows, after = db.rewritten name rows

theorem transaction_rewrites (hrun : Confined name run) (entity operation : String) (s : Store) :
    Matches (Rewrites name) s ((transaction entity operation run).on s).2 ∧
      ((transaction entity operation run).on s).2.applied = s.applied ∧
      ((transaction entity operation run).on s).2.clock = s.clock := by
  have hsame : ∀ db : Database, Rewrites name db db := fun db => ⟨none, by simp⟩
  rcases ht : (transaction entity operation run).on s with ⟨r, t⟩
  rcases transaction_cases ht with ⟨-, rfl⟩ | ⟨db, after, a, hd, hr, -, rfl⟩
  · refine ⟨(matches_opened s).trans (.refl _) ?_, rfl, rfl⟩
    rintro db _ _ rfl rfl
    exact hsame db
  · refine ⟨matches_stored hd ?_, by simp, by simp⟩
    have halike := hrun db db rfl
    rw [hr] at halike
    cases halike with
    | done rows a => exact ⟨rows, rfl⟩

/-- What a call does to a store where its table is there: it writes rows of the table at most. -/
theorem outcome_rewrites (call : Call) (s : Store) :
    Matches (Rewrites e.schema.denotedName) s
        (Call.outcome e.schema s (call.plan e s.paging s.clock)).2 ∧
      (Call.outcome e.schema s (call.plan e s.paging s.clock)).2.applied = s.applied := by
  have hquiet : ∀ {t : Store}, Matches Eq s t → Matches (Rewrites e.schema.denotedName) s t := by
    intro t ht
    refine ht.trans (.refl t) ?_
    rintro db _ _ rfl rfl
    exact ⟨none, by simp⟩
  cases hp : call.plan e s.paging s.clock with
  | error f => exact ⟨hquiet (.refl s), rfl⟩
  | ok plan =>
    cases plan with
    | answer a c => exact ⟨hquiet (matches_clock s c), rfl⟩
    | transact operation c run =>
      obtain ⟨hafter, happlied, -⟩ := transaction_rewrites (Call.runs_of_plan hp).confined e.schema.name
        operation { s with clock := c }
      refine ⟨(matches_clock s c).trans hafter ?_, happlied⟩
      rintro db _ after rfl hafter
      exact hafter

/-- A relation under which a table is seen alike, also after the same rows were written in both. -/
structure Sees (name : String) (R : Database → Database → Prop) : Prop where
  view : ∀ db db', R db db' → db.view name = db'.view name
  written : ∀ db db' rows, R db db' → R (db.rewritten name rows) (db'.rewritten name rows)

theorem Matches.transaction (h : Matches R s s') (hR : Sees name R) (hrun : Confined name run)
    (entity operation : String) :
    ((transaction entity operation run).on s).1 = ((transaction entity operation run).on s').1 ∧
      Matches R ((transaction entity operation run).on s).2
        ((transaction entity operation run).on s').2 := by
  rcases h.databases with @⟨db, db', hl, hr, hrel⟩ | ⟨hl, hr, hdisk⟩
  · have halike := hrun db db' (hR.view db db' hrel)
    rw [transaction_reached hl, transaction_reached hr]
    generalize run db = x at halike ⊢
    generalize run db' = x' at halike ⊢
    cases halike with
    | failed f => exact ⟨rfl, h.opened⟩
    | done rows a =>
      exact ⟨rfl, by simpa using h.link, by simpa using h.files, by simpa using h.paging,
        .reached (database?_stored hl _) (database?_stored hr _) (hR.written _ _ rows hrel)⟩
  · obtain ⟨f, hf⟩ := obstacle_of_unreached hl fun _ fault => fault.failure entity operation
    have hf' := hf
    rw [obstacle_congr h.link h.files hdisk hl] at hf'
    rw [transaction_obstacle hf, transaction_obstacle hf']
    exact ⟨rfl, h.opened⟩

/-- A call whose table is there is answered alike on stores that match and have one clock. -/
theorem Matches.outcome (h : Matches R s s') (hR : Sees e.schema.denotedName R)
    (hclock : s.clock = s'.clock) (call : Call) :
    (Call.outcome e.schema s (call.plan e s.paging s.clock)).1 =
        (Call.outcome e.schema s' (call.plan e s'.paging s'.clock)).1 ∧
      Matches R (Call.outcome e.schema s (call.plan e s.paging s.clock)).2
        (Call.outcome e.schema s' (call.plan e s'.paging s'.clock)).2 ∧
      (Call.outcome e.schema s (call.plan e s.paging s.clock)).2.clock =
        (Call.outcome e.schema s' (call.plan e s'.paging s'.clock)).2.clock := by
  rw [← h.paging, ← hclock]
  cases hp : call.plan e s.paging s.clock with
  | error f => exact ⟨rfl, h, hclock⟩
  | ok plan =>
    cases plan with
    | answer a c => exact ⟨rfl, h.clocks c c, rfl⟩
    | transact operation c run =>
      have hrun := (Call.runs_of_plan hp).confined
      obtain ⟨hanswer, hafter⟩ := (h.clocks c c).transaction hR hrun e.schema.name operation
      obtain ⟨-, -, hleft⟩ := transaction_rewrites hrun e.schema.name operation { s with clock := c }
      obtain ⟨-, -, hright⟩ := transaction_rewrites hrun e.schema.name operation { s' with clock := c }
      exact ⟨hanswer, hafter, hleft.trans hright.symm⟩

end Calls

/-! ## Ensuring a table -/

section Ensuring

variable {r r' : Except Failure TableSchema}

/-- One database is the other after an application of the statements of a table, however it ended. -/
def Applies (t : TableSchema) (db after : Database) : Prop :=
  after = (db.applyAll (t.statements .sqlite)).1

/-- To ensure a table is to do nothing, or to apply its statements once. -/
theorem ensure_applies (hs : s.isApplied e = false) (h : (ensure e).on s = (r, t)) :
    Matches (Applies e.schema) s t ∧ (t.applied = s.applied ∨ t.applied = e.place :: s.applied) := by
  cases hd : s.database? with
  | some db =>
    have hext := (ensure_spec h).1.extension
    have hset := ensure_settled hd hs h
    refine ⟨⟨hext.link.symm, hext.files.symm, hext.paging.symm, .reached hd hset.database rfl⟩, ?_⟩
    rw [hset.applied]
    split
    · exact .inr rfl
    · exact .inl rfl
  | none =>
    obtain ⟨f, hf⟩ := obstacle_of_unreached hd (tellUnreached e.schema)
    rw [ensure_obstacle hs hf] at h
    cases h
    exact ⟨⟨rfl, rfl, rfl, .unreached hd hd rfl⟩, .inl rfl⟩

/-- Applications that end alike on related databases are told alike on stores that match. -/
theorem Matches.ensure (h : Matches R s s') (hs : s.isApplied e = false)
    (hs' : s'.isApplied e = false) (happly : ∀ db db', R db db' →
      (db.applyAll (e.schema.statements .sqlite)).2 =
          (db'.applyAll (e.schema.statements .sqlite)).2 ∧
        R (db.applyAll (e.schema.statements .sqlite)).1
          (db'.applyAll (e.schema.statements .sqlite)).1)
    (hl : (Store.ensure e).on s = (r, t)) (hr : (Store.ensure e).on s' = (r', t')) :
    r = r' ∧ Matches R t t' ∧ (t.applied = s.applied ∧ t'.applied = s'.applied ∨
      t.applied = e.place :: s.applied ∧ t'.applied = e.place :: s'.applied) := by
  have hmatch : Matches R t t' := by
    refine h.step (ensure_applies hs hl).1 (ensure_applies hs' hr).1 ?_
    rintro db db' _ _ hR rfl rfl
    exact (happly db db' hR).2
  rcases h.databases with @⟨db, db', hd, hd', hR⟩ | ⟨hd, hd', hdisk⟩
  · have hset := ensure_settled hd hs hl
    have hset' := ensure_settled hd' hs' hr
    have hsame := (happly db db' hR).1
    refine ⟨by rw [hset.answer, hset'.answer, hsame], hmatch, ?_⟩
    rw [hset.applied, hset'.applied, hsame]
    split
    · exact .inr ⟨rfl, rfl⟩
    · exact .inl ⟨rfl, rfl⟩
  · obtain ⟨f, hf⟩ := obstacle_of_unreached hd (tellUnreached e.schema)
    have hf' := hf
    rw [obstacle_congr h.link h.files hdisk hd] at hf'
    rw [ensure_obstacle hs hf] at hl
    rw [ensure_obstacle hs' hf'] at hr
    cases hl
    cases hr
    exact ⟨rfl, hmatch, .inl ⟨rfl, rfl⟩⟩

end Ensuring

/-! ## Calls -/

/-- To ensure a table does to a database what an application of its statements does, or nothing. -/
theorem ensure_matches (hrefl : ∀ db, R db db)
    (happly : s.isApplied e = false → ∀ db, R db (db.applyAll (e.schema.statements .sqlite)).1) :
    Matches R s ((Store.ensure e).on s).2 ∧
      (((Store.ensure e).on s).2.applied = s.applied ∨
        ((Store.ensure e).on s).2.applied = e.place :: s.applied) := by
  cases hs : s.isApplied e with
  | true =>
    rw [ensure_known hs]
    refine ⟨(Matches.refl s).trans (.refl s) ?_, .inl rfl⟩
    rintro db _ _ rfl rfl
    exact hrefl db
  | false =>
    obtain ⟨hmatch, happlied⟩ := ensure_applies hs (Prod.mk.eta (p := (Store.ensure e).on s)).symm
    refine ⟨hmatch.trans (.refl _) ?_, happlied⟩
    rintro db _ _ rfl rfl
    exact happly hs db

/-- What applications of the statements of a table and writings of its rows do to a database, one
after another, a call for its entity does. -/
theorem perform_matches (hrefl : ∀ db, R db db)
    (htrans : ∀ db mid after, R db mid → R mid after → R db after)
    (happly : s.isApplied e = false → ∀ db, R db (db.applyAll (e.schema.statements .sqlite)).1)
    (hrows : ∀ db rows, R db (db.rewritten e.schema.denotedName rows)) (call : Call) :
    Matches R s ((call.perform e).on s).2 ∧
      (((call.perform e).on s).2.applied = s.applied ∨
        ((call.perform e).on s).2.applied = e.place :: s.applied) := by
  have hready := ensure_matches hrefl happly
  rcases he : (Store.ensure e).on s with ⟨r, ready⟩
  rw [he] at hready
  cases r with
  | error f =>
    rw [Call.perform_unready call he]
    exact hready
  | ok t =>
    obtain ⟨hwrites, happlied⟩ := @outcome_rewrites e call ready
    rw [Call.perform_ready call he, happlied]
    refine ⟨hready.1.trans hwrites ?_, hready.2⟩
    rintro db mid _ hmid ⟨rows, rfl⟩
    exact htrans db mid _ hmid (hrows mid rows)

/-- A call is answered alike on two stores if ensuring its table is, and what is left of it then is. -/
theorem perform_alike {P : Store → Store → Prop} (call : Call)
    (hensure : ∀ r r' t t', (Store.ensure e).on s = (r, t) → (Store.ensure e).on s' = (r', t') →
      r = r' ∧ P t t')
    (houtcome : ∀ t t', P t t' → (Call.outcome e.schema t (call.plan e t.paging t.clock)).1 =
        (Call.outcome e.schema t' (call.plan e t'.paging t'.clock)).1 ∧
      P (Call.outcome e.schema t (call.plan e t.paging t.clock)).2
        (Call.outcome e.schema t' (call.plan e t'.paging t'.clock)).2) :
    ((call.perform e).on s).1 = ((call.perform e).on s').1 ∧
      P ((call.perform e).on s).2 ((call.perform e).on s').2 := by
  rcases hl : (Store.ensure e).on s with ⟨r, t⟩
  rcases hr : (Store.ensure e).on s' with ⟨r', t'⟩
  obtain ⟨rfl, hready⟩ := hensure r r' t t' hl hr
  cases r with
  | error f =>
    rw [Call.perform_unready call hl, Call.perform_unready call hr]
    exact ⟨rfl, hready⟩
  | ok u =>
    rw [Call.perform_ready call hl, Call.perform_ready call hr]
    exact houtcome t t' hready

end Store

end EntityStore
