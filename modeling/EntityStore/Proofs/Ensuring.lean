import EntityStore.Proofs.Made

/-! # Ensuring a table, by its database

Where a store reaches a database, ensuring the table of an entity is a matter of that database: the
statements are applied to it, and once more if they fail though the table is there.
-/
namespace EntityStore

open Database

namespace Store

open EntityStore.Action

variable {s s' : Store} {db : Database} {e : Registered}

/-- Why statements failed, if they did. -/
def problem? : Option (Statement × Fault) → Option String :=
  Option.map fun (statement, fault) => fault.report (some (statement.sql .sqlite))

theorem isApplied_marked (s : Store) (e : Registered) : (s.marked e).isApplied e = true :=
  isApplied_remember s

theorem applyOnce_reached (h : s.database? = some db) (t : TableSchema) :
    (applyOnce t).on s = (.ok (problem? (db.applyAll (t.statements .sqlite)).2),
      s.stored (db.applyAll (t.statements .sqlite)).1) := by
  obtain ⟨u, hu, hd⟩ := place_of_reached h
  have hopened : s.opened.databaseAt (s.link.location u) = .ok db := hd
  unfold applyOnce
  simp only [on_bind, engine_on, hu, on_get, hopened, on_set, on_pure, stored]
  rfl

theorem hasTable_reached (h : s.database? = some db) (name : String) :
    (hasTable name).on s = (.ok (db.has name), s.opened) := by
  obtain ⟨u, hu, hd⟩ := place_of_reached h
  have hopened : s.opened.databaseAt (s.link.location u) = .ok db := hd
  unfold hasTable
  simp only [on_bind, engine_on, hu, on_get, hopened, on_pure]

/-- How ensuring a table that was not applied ends: after one application, after a second one, or with
the problem of the last one. -/
inductive Ensures (e : Registered) (s : Store) (db : Database) :
    Except Failure TableSchema → Store → Prop
  | once {after : Database} (h : db.applyAll (e.schema.statements .sqlite) = (after, none)) :
    Ensures e s db (.ok e.schema) ((s.stored after).marked e)
  | twice {mid after : Database} {fault : Statement × Fault}
    (h : db.applyAll (e.schema.statements .sqlite) = (mid, some fault))
    (there : mid.has e.schema.name = true)
    (again : mid.applyAll (e.schema.statements .sqlite) = (after, none)) :
    Ensures e s db (.ok e.schema) (((s.stored mid).opened.stored after).marked e)
  | absent {mid : Database} {fault : Statement × Fault} {reason : String}
    (h : db.applyAll (e.schema.statements .sqlite) = (mid, some fault))
    (missing : mid.has e.schema.name = false) (told : problem? (some fault) = some reason) :
    Ensures e s db (.error (.schemaSync e.schema.name reason)) (s.stored mid).opened
  | failed {mid after : Database} {fault fault' : Statement × Fault} {reason : String}
    (h : db.applyAll (e.schema.statements .sqlite) = (mid, some fault))
    (there : mid.has e.schema.name = true)
    (again : mid.applyAll (e.schema.statements .sqlite) = (after, some fault'))
    (told : problem? (some fault') = some reason) :
    Ensures e s db (.error (.schemaSync e.schema.name reason)) ((s.stored mid).opened.stored after)

/-- Ensuring a table by its database. -/
theorem ensure_reached (h : s.database? = some db) (hs : s.isApplied e = false)
    {r : Except Failure TableSchema} (he : (ensure e).on s = (r, s')) : Ensures e s db r s' := by
  have hns : ¬ s.isApplied e = true := by simp [hs]
  have hfirst := applyOnce_reached h e.schema
  unfold ensure ensureInterrupted at he
  simp only [on_bind, on_get, if_neg hns, List.getD_nil, applyInterrupted] at he
  rcases ha : db.applyAll (e.schema.statements .sqlite) with ⟨mid, fault | fault⟩
  · rw [ha] at hfirst
    rw [hfirst] at he
    simp only [problem?, Option.map_none, remember, on_bind, on_modify, on_pure, on_ofExcept] at he
    cases he
    exact .once ha
  · rw [ha] at hfirst
    rw [hfirst] at he
    have hmid := database?_stored h mid
    simp only [problem?, Option.map_some, on_bind, hasTable_reached hmid] at he
    cases hthere : mid.has e.schema.name with
    | false =>
      have hname : mid.has (TableSchema.ofDescriptor e.descriptor).name = false := hthere
      simp only [hname, Bool.false_eq_true, if_false, on_pure, on_ofExcept] at he
      cases he
      exact .absent ha hthere rfl
    | true =>
      have hname : mid.has (TableSchema.ofDescriptor e.descriptor).name = true := hthere
      have hopened : (s.stored mid).opened.database? = some mid := hmid
      have hsecond := applyOnce_reached hopened e.schema
      simp only [hname, if_true, on_bind] at he
      rcases hb : mid.applyAll (e.schema.statements .sqlite) with ⟨after, fault' | fault'⟩
      · rw [hb] at hsecond
        rw [hsecond] at he
        simp only [problem?, Option.map_none, remember, on_bind, on_modify, on_pure,
          on_ofExcept] at he
        cases he
        exact .twice ha hthere hb
      · rw [hb] at hsecond
        rw [hsecond] at he
        simp only [problem?, Option.map_some, on_pure, on_ofExcept] at he
        cases he
        exact .failed ha hthere hb rfl

/-- Ensuring answers only if an application of all statements ended without a fault: the first one, or
one that found what the first one left. -/
theorem Ensures.applied {t : TableSchema} (h : s.database? = some db)
    (he : Ensures e s db (.ok t) s') : t = e.schema ∧ ∃ mid after,
      (mid = db ∨ mid = (db.applyAll (e.schema.statements .sqlite)).1) ∧
      mid.applyAll (e.schema.statements .sqlite) = (after, none) ∧ s'.database? = some after ∧
      s'.applied = e.place :: s.applied := by
  cases he with
  | @once after ha =>
    refine ⟨rfl, db, after, .inl rfl, ha, database?_stored h after, ?_⟩
    simp [marked]
  | @twice mid after fault ha _ hb =>
    have hmid : (s.stored mid).opened.database? = some mid := database?_stored h mid
    refine ⟨rfl, mid, after, .inr (by rw [ha]), hb, database?_stored hmid after, ?_⟩
    simp [marked, opened]

end Store

end EntityStore
