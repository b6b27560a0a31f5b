import EntityStore.Proofs.Ensuring
import EntityStore.Proofs.Realized
import EntityStore.Proofs.Stages

/-! # Interrupted applications

The statements of a table may be cut off anywhere and begun again from the first, as often as it
happens: the next application that reaches the end leaves what a single one makes of an empty
database, and no row is ever touched. An entity counts as applied only after an application that
reached its end.
-/
namespace EntityStore

open Database

namespace Database

variable {t : TableSchema} {full db : Database}

/-! ## Rows -/

/-- A statement leaves the tables that are there with their rows, and adds an empty one at most. -/
theorem rows_apply {after : Database} {statement : Statement} (h : db.apply statement = .ok after) :
    ∃ added, after.tables = db.tables ++ added ∧ ∀ tbl ∈ added, tbl.rows = [] := by
  by_cases hs : ∃ u, statement = .createTable u
  · obtain ⟨u, rfl⟩ := hs
    simp only [apply, createTable] at h
    split at h
    · cases h
    · split at h
      · cases h
        exact ⟨[], by simp, by simp⟩
      · cases h
        exact ⟨[⟨u.rename denoted, []⟩], rfl, by simp⟩
  · have hkinds : ∀ u, statement ≠ .createTable u := fun u hu => hs ⟨u, hu⟩
    exact ⟨[], by simpa using tables_apply hkinds h, by simp⟩

theorem rows_applyAll (statements : List Statement) (db : Database) :
    ∃ added, (db.applyAll statements).1.tables = db.tables ++ added ∧
      ∀ tbl ∈ added, tbl.rows = [] := by
  induction statements generalizing db with
  | nil => exact ⟨[], by simp [applyAll], by simp⟩
  | cons statement rest ih =>
    rw [applyAll]
    cases ha : db.apply statement with
    | error fault => exact ⟨[], by simp, by simp⟩
    | ok mid =>
      obtain ⟨first, hfirst, hempty⟩ := rows_apply ha
      obtain ⟨others, hothers, hempty'⟩ := ih mid
      refine ⟨first ++ others, by simp [hothers, hfirst], ?_⟩
      intro tbl htbl
      rcases List.mem_append.mp htbl with htbl | htbl
      · exact hempty tbl htbl
      · exact hempty' tbl htbl

/-! ## Repetitions -/

section Repetitions

variable (hfull : ({} : Database).applyAll (t.statements .sqlite) = (full, none))
include hfull

/-- First parts of the statements, one after another, leave a stage. -/
theorem Nearing.parts {rest : List Statement} (h : Nearing t full rest db) (parts : List ℕ) :
    ∃ after rest', db.applyAll (parts.map fun k => (t.statements .sqlite).take k).flatten =
      (after, none) ∧ Nearing t full rest' after := by
  induction parts generalizing db rest with
  | nil => exact ⟨db, rest, rfl, h⟩
  | cons k parts ih =>
    obtain ⟨mid, rest₁, hmid, hnear⟩ := h.take hfull k
    obtain ⟨after, rest₂, hafter, hnear'⟩ := ih hnear
    refine ⟨after, rest₂, ?_, hnear'⟩
    rw [List.map_cons, List.flatten_cons]
    exact applyAll_append.mpr ⟨mid, hmid, hafter⟩

/-- All statements, once and then as often again as one likes. -/
theorem Nearing.repeated {rest : List Statement} (h : Nearing t full rest db) (times : ℕ) :
    db.applyAll (List.replicate (times + 1) (t.statements .sqlite)).flatten = (full, none) := by
  induction times generalizing db rest with
  | zero => simpa using h.applyAll hfull
  | succ times ih =>
    rw [List.replicate_succ, List.flatten_cons]
    exact applyAll_append.mpr ⟨full, h.applyAll hfull, ih (nearing_full hfull)⟩

/-- Where everything is there, with whatever rows, nothing is done. -/
theorem applyAll_complete (hschemas : db.schemas = full.schemas) (hindexes : db.indexes = full.indexes)
    (htriggers : db.triggers = full.triggers) : db.applyAll (t.statements .sqlite) = (db, none) := by
  obtain ⟨made, tbl, hmade, htbl, rfl⟩ := completed hfull
  have hcreations : ∀ statement ∈ t.creations, db.apply statement = .ok db := by
    intro statement hmem
    have hagain := stage_again (List.append_nil _).symm hmade statement hmem
    exact apply_again (t.creates_of_mem hmem) hagain hschemas (hindexes ▸ List.Subset.refl _)
  have hdropped : db.apply (.dropTrigger t.name t.trigger) = .ok { db with triggers := [] } := by
    simp [apply, dropTrigger, htriggers]
  have hcreated : Database.apply (.createTrigger t.name t.trigger) { db with triggers := [] } =
      .ok db := by
    have hsame : (db.table? (denoted t.name)).map (·.schema) = some tbl.schema := by
      have hmap := made.table?_schema (denoted t.name)
      rw [htbl] at hmap
      rw [table?_schema, hschemas]
      exact hmap.symm
    obtain ⟨tbl', htbl', hschema⟩ := Option.map_eq_some_iff.mp hsame
    have hname : tbl'.name = tbl.name := congrArg TableSchema.name hschema
    have hfound : table? { db with triggers := [] } (denoted t.name) = some tbl' := htbl'
    simp only [apply, createTrigger, hfound, hname]
    rw [if_neg (by simp), List.nil_append]
    have hback : [⟨denoted t.trigger, tbl.name⟩] = db.triggers := htriggers.symm
    rw [hback]
  rw [t.statements_eq]
  refine applyAll_append.mpr ⟨db, applyAll_still hcreations, ?_⟩
  exact applyAll_cons.mpr ⟨_, hdropped, applyAll_cons.mpr ⟨db, hcreated, rfl⟩⟩

end Repetitions

end Database

namespace Store

open EntityStore.Action

/-- Attempts leave alone what counts as applied. -/
def Unmarking (attempt : ℕ → Action (Option String)) : Prop :=
  ∀ i s, ((attempt i).on s).2.applied = s.applied

theorem unmarking_applyInterrupted (t : TableSchema)
    (interruptions : List (Option Interruption)) :
    Unmarking fun i => applyInterrupted t (interruptions.getD i none) := by
  intro i s
  have honce : ((applyOnce t).on s).2.applied = s.applied := (applyOnce_spec rfl).2.1
  dsimp only
  cases interruptions.getD i none with
  | none => exact honce
  | some interruption =>
    unfold applyInterrupted
    by_cases hbefore : interruption.isBefore = true
    · simp [hbefore]
    · rcases ha : (applyOnce t).on s with ⟨_ | _ | reason, after⟩ <;> rw [ha] at honce <;>
        simpa [hbefore, ha] using honce

variable {attempt : ℕ → Action (Option String)} {e : Registered} {s s' : Store}

/-- An attempt of ensuring a table ended without a problem, from the state in which it began: the first
one begins at once, the second one after a problem and a table that is there. -/
inductive Completes (attempt : ℕ → Action (Option String)) (e : Registered) (s : Store) :
    ℕ → Store → Prop
  | first {after : Store} (h : (attempt 0).on s = (.ok none, after)) : Completes attempt e s 1 after
  | second {reason : String} {mid seen after : Store}
    (h : (attempt 0).on s = (.ok (some reason), mid))
    (there : (hasTable e.schema.name).on mid = (.ok true, seen))
    (again : (attempt 1).on seen = (.ok none, after)) : Completes attempt e s 2 after

/-- What ensuring a table keeps to, by the number of its attempts and its answer. -/
structure Bookkept (attempt : ℕ → Action (Option String)) (e : Registered) (s : Store)
    (r : Except Failure (ℕ × Except Failure TableSchema)) (s' : Store) : Prop where
  /-- An entity that counts as applied is left alone, any other one is attempted, twice at most. -/
  attempts : ∀ n a, r = .ok (n, a) → n ≤ 2 ∧ (n = 0 ↔ s.isApplied e = true)
  /-- It counts as applied only after an attempt that ended without a problem, the last one. -/
  marked : s'.applied ≠ s.applied → ∃ n after, r = .ok (n, .ok e.schema) ∧
    Completes attempt e s n after ∧ s' = after.marked e
  /-- An answer tells that it counts as applied. -/
  answered : ∀ n t, r = .ok (n, .ok t) → t = e.schema ∧ s'.isApplied e = true
  /-- After a problem the entity does not count as applied, so it is attempted again. -/
  refused : ∀ n f, r = .ok (n, .error f) →
    (∃ reason, f = .schemaSync e.schema.name reason) ∧ s'.applied = s.applied ∧
      s'.isApplied e = false

theorem bookkept_marked {n : ℕ} {after : Store} (hs : s.isApplied e = false)
    (h : Completes attempt e s n after) :
    Bookkept attempt e s (.ok (n, .ok e.schema)) (after.marked e) := by
  have hcount : n ≤ 2 ∧ n ≠ 0 := by cases h <;> decide
  refine ⟨?_, fun _ => ⟨n, after, rfl, h, rfl⟩, ?_, ?_⟩
  · rintro _ _ ⟨⟩
    simp [hcount.1, hcount.2, hs]
  · rintro _ _ ⟨⟩
    exact ⟨rfl, isApplied_marked after e⟩
  · rintro _ _ ⟨⟩

theorem bookkept_refused {n : ℕ} {reason : String} (hs : s.isApplied e = false) (hn : n = 1 ∨ n = 2)
    (happlied : s'.applied = s.applied) :
    Bookkept attempt e s (.ok (n, .error (.schemaSync e.schema.name reason))) s' := by
  refine ⟨?_, fun h => absurd happlied h, ?_, ?_⟩
  · rintro _ _ ⟨⟩
    rcases hn with rfl | rfl <;> simp [hs]
  · rintro _ _ ⟨⟩
  · rintro _ _ ⟨⟩
    exact ⟨⟨reason, rfl⟩, happlied, by rwa [isApplied, happlied]⟩

theorem bookkept_thrown {f : Failure} (happlied : s'.applied = s.applied) :
    Bookkept attempt e s (.error f) s' :=
  ⟨fun _ _ h => (by cases h), fun h => absurd happlied h, fun _ _ h => (by cases h),
    fun _ _ h => (by cases h)⟩

theorem bookkept_ensureBy (hu : Unmarking attempt)
    {r : Except Failure (ℕ × Except Failure TableSchema)}
    (h : (ensureBy attempt e).on s = (r, s')) : Bookkept attempt e s r s' := by
  have hcourse := course_ensureBy attempt e s
  rw [h] at hcourse
  have hattempt : ∀ {i s a after}, (attempt i).on s = (a, after) → after.applied = s.applied := by
    intro i s a after ha
    simpa [ha] using hu i s
  have hseen : ∀ {s a after}, (hasTable e.schema.name).on s = (a, after) →
      after.applied = s.applied := fun ha => (hasTable_spec (t := e.schema) ha).2
  cases hcourse with
  | known hs =>
    refine ⟨?_, fun h => absurd rfl h, ?_, ?_⟩
    · rintro _ _ ⟨⟩
      simp [hs]
    · rintro _ _ ⟨⟩
      exact ⟨rfl, hs⟩
    · rintro _ _ ⟨⟩
  | thrown hs h₁ => exact bookkept_thrown (hattempt h₁)
  | first hs h₁ => exact bookkept_marked hs (.first h₁)
  | unseen hs h₁ h₂ => exact bookkept_thrown ((hseen h₂).trans (hattempt h₁))
  | absent hs h₁ h₂ => exact bookkept_refused hs (.inl rfl) ((hseen h₂).trans (hattempt h₁))
  | thrownAgain hs h₁ h₂ h₃ =>
    exact bookkept_thrown ((hattempt h₃).trans ((hseen h₂).trans (hattempt h₁)))
  | second hs h₁ h₂ h₃ => exact bookkept_marked hs (.second h₁ h₂ h₃)
  | failed hs h₁ h₂ h₃ =>
    exact bookkept_refused hs (.inr rfl) ((hattempt h₃).trans ((hseen h₂).trans (hattempt h₁)))

/-- How the table of an entity is recovered; `full` is what a single application makes of an empty
database. -/
structure Recovers (e : Registered) (full : Database) : Prop where
  /-- Any first parts of the statements, and then all of them once or more, lead there as well. -/
  completes : ∀ (parts : List ℕ) (times : ℕ), ({} : Database).applyAll
    ((parts.map fun k => (e.schema.statements .sqlite).take k).flatten ++
      (List.replicate (times + 1) (e.schema.statements .sqlite)).flatten) = (full, none)
  /-- No statements touch a row: the tables that are there stay, and others begin empty. -/
  untouched : ∀ (db : Database) (statements : List Statement), ∃ added,
    (db.applyAll statements).1.tables = db.tables ++ added ∧ ∀ tbl ∈ added, tbl.rows = []
  /-- Where everything is there, with whatever rows, nothing is done. -/
  idle : ∀ db : Database, db.schemas = full.schemas → db.indexes = full.indexes →
    db.triggers = full.triggers → db.applyAll (e.schema.statements .sqlite) = (db, none)
  /-- Whatever its attempts come to, ensuring the table keeps its books. -/
  bookkept : ∀ attempt, Unmarking attempt → ∀ s,
    Bookkept attempt e s ((ensureBy attempt e).on s).1 ((ensureBy attempt e).on s).2
  /-- An attempt of ensuring applies the statements, and may be disturbed before or after that. -/
  attempted : ∀ interruptions : List (Option Interruption),
    Unmarking (fun i => applyInterrupted e.schema (interruptions.getD i none)) ∧
      ensureInterrupted interruptions e =
        ensureBy (fun i => applyInterrupted e.schema (interruptions.getD i none)) e
  /-- Whatever interrupted applications left, ensuring the table makes up for it. -/
  recovered : ∀ (parts : List ℕ) (s : Store), s.isApplied e = false → s.database? = some
    (({} : Database).applyAll (parts.map fun k => (e.schema.statements .sqlite).take k).flatten).1 →
    ∃ s', (ensure e).on s = (.ok e.schema, s') ∧ s'.database? = some full ∧ s'.isApplied e = true

/-- Statements that can be applied to an empty database recover from every interruption. -/
theorem application_recovers {full : Database}
    (hfull : ({} : Database).applyAll (e.schema.statements .sqlite) = (full, none)) :
    Recovers e full := by
  refine ⟨?_, fun db statements => rows_applyAll statements db,
    fun db => applyAll_complete hfull, fun _ hu _ => bookkept_ensureBy hu rfl,
    fun interruptions => ⟨unmarking_applyInterrupted e.schema interruptions,
      ensureInterrupted_eq interruptions e⟩, ?_⟩
  · intro parts times
    obtain ⟨mid, rest, hparts, hnear⟩ := (nearing_empty e.schema full).parts hfull parts
    exact applyAll_append.mpr ⟨mid, hparts, hnear.repeated hfull times⟩
  · intro parts s hs hdb
    obtain ⟨mid, rest, hparts, hnear⟩ := (nearing_empty e.schema full).parts hfull parts
    rw [hparts] at hdb
    have happlied := hnear.applyAll hfull
    rcases he : (ensure e).on s with ⟨r, s'⟩
    cases ensure_reached hdb hs he with
    | @once after h =>
      rw [happlied] at h
      cases h
      exact ⟨_, rfl, database?_stored hdb full, isApplied_marked _ e⟩
    | twice h =>
      rw [happlied] at h
      cases h
    | absent h =>
      rw [happlied] at h
      cases h
    | failed h =>
      rw [happlied] at h
      cases h

/-- An entity with an index. -/
def indexed : Registered := ⟨0, Descriptor.priced⟩

theorem indexed_recovers : ∃ full : Database, full.indexes.length = 1 ∧
    ({} : Database).applyAll (indexed.schema.statements .sqlite) = (full, none) ∧
    Recovers indexed full := by
  have hfull : ({} : Database).applyAll (indexed.schema.statements .sqlite) =
      ((({} : Database).applyAll (indexed.schema.statements .sqlite)).1, none) := by decide +kernel
  exact ⟨_, by decide +kernel, hfull, application_recovers hfull⟩

end Store

end EntityStore
