import EntityStore.Proofs.Reach
import EntityStore.Proofs.Rows

/-! # Making the table of an entity

Applying a descriptor adds its table to a database that has none of that name, and changes no table
that is there. This holds for every attempt, also for one that fails on the way.
-/
namespace EntityStore

open Database

/-! ## Statements -/

namespace Database

/-- What is left or made of a table by the statements that ask for it. -/
def Grows (t : TableSchema) (before after : Option Table) : Prop :=
  after = before ∨ before = none ∧ t.Distinct ∧ after = some ⟨t.made, []⟩

theorem Grows.refl (t : TableSchema) (before : Option Table) : Grows t before before := .inl rfl

theorem Grows.trans {t : TableSchema} {a b c : Option Table} (h : Grows t a b)
    (k : Grows t b c) : Grows t a c := by
  rcases h with rfl | ⟨rfl, hd, rfl⟩
  · exact k
  · rcases k with rfl | ⟨hn, -, -⟩
    · exact .inr ⟨rfl, hd, rfl⟩
    · cases hn

theorem Grows.isSome {t : TableSchema} {before after : Option Table} (h : Grows t before after)
    (hb : before.isSome = true) : after.isSome = true := by
  rcases h with rfl | ⟨-, -, rfl⟩
  · exact hb
  · rfl

/-- The schemas of all tables of a database. -/
def schemas (db : Database) : List TableSchema := db.tables.map (·.schema)

theorem table?_isSome_iff {db : Database} {name : String} :
    (db.table? name).isSome = true ↔ ∃ u ∈ db.schemas, sameName u.name name = true := by
  simp [table?, schemas, Table.name]

/-- What statements that ask for a table make of the schemas of all tables: they stay, and that of the
table joins them where there was none of its name. -/
def Joins (t : TableSchema) (before after : List TableSchema) : Prop :=
  after = before ∨ (∀ u ∈ before, sameName u.name t.denotedName = false) ∧ after = before ++ [t.made]

theorem Joins.refl (t : TableSchema) (before : List TableSchema) : Joins t before before := .inl rfl

theorem Joins.trans {t : TableSchema} {a b c : List TableSchema} (h : Joins t a b)
    (k : Joins t b c) : Joins t a c := by
  rcases h with rfl | ⟨hnone, rfl⟩
  · exact k
  · rcases k with rfl | ⟨hthere, -⟩
    · exact .inr ⟨hnone, rfl⟩
    · have hsame : sameName t.made.name t.denotedName = true := sameName_refl _
      rw [hthere _ (by simp)] at hsame
      cases hsame

/-- Only one statement adds a table. -/
theorem tables_apply {db after : Database} {statement : Statement}
    (hs : ∀ t, statement ≠ .createTable t) (h : db.apply statement = .ok after) :
    after.tables = db.tables := by
  cases statement with
  | createTable t => exact absurd rfl (hs t)
  | createIndex table index =>
    simp only [apply, createIndex] at h
    split at h
    · cases h
    · split at h
      · cases h
      · split at h
        · cases h
          rfl
        · split at h
          · cases h
            rfl
          · split at h
            · cases h
              rfl
            · cases h
  | touchFunction =>
    cases h
    rfl
  | dropTrigger table trigger =>
    cases h
    rfl
  | createTrigger table trigger =>
    simp only [apply, createTrigger] at h
    split at h
    · cases h
    · split at h
      · cases h
      · cases h
        rfl

theorem tables_applyAll {statements : List Statement}
    (hs : ∀ statement ∈ statements, ∀ t, statement ≠ .createTable t) (db : Database) :
    (db.applyAll statements).1.tables = db.tables := by
  induction statements generalizing db with
  | nil => rfl
  | cons statement rest ih =>
    rw [applyAll]
    cases ha : db.apply statement with
    | error fault => rfl
    | ok after =>
      rw [← tables_apply (hs statement (by simp)) ha]
      exact ih (fun st h => hs st (List.mem_cons_of_mem _ h)) after

theorem createTable_ok {t : TableSchema} {db after : Database} (h : db.createTable t = .ok after) :
    Grows t (db.table? t.denotedName) (after.table? t.denotedName) ∧
      (after.table? t.denotedName).isSome = true := by
  simp only [createTable] at h
  split at h
  · cases h
  · rename_i hf
    split at h
    · rename_i hs
      cases h
      exact ⟨.refl _ _, hs⟩
    · rename_i hs
      have hn : db.table? t.denotedName = none := by
        exact Option.not_isSome_iff_eq_none.mp hs
      cases h
      have hfound : Database.table?
          { db with tables := db.tables ++ [⟨t.rename denoted, []⟩] } t.denotedName =
          some ⟨t.made, []⟩ := by
        have hself : sameName (⟨t.made, []⟩ : Table).name t.denotedName = true :=
          sameName_refl _
        rw [table?] at hn ⊢
        rw [List.find?_append, hn, Option.none_or]
        exact List.find?_cons_of_pos hself
      rw [hfound]
      refine ⟨.inr ⟨hn, ?_, rfl⟩, rfl⟩
      -- a new table was refused unless all its columns have names of their own
      have hc : columnFault? t.denotedName (db.table? t.denotedName).isNone [] t.columns = none := by
        simp only [createTableFault?, Option.orElse_eq_orElse, Option.orElse_eq_or,
          Option.or_eq_none_iff] at hf
        exact hf.2.2.2
      rw [hn] at hc
      exact (columnFault?_none_iff.mp hc).2.1

theorem joins_createTable {t : TableSchema} {db after : Database}
    (h : db.createTable t = .ok after) : Joins t db.schemas after.schemas := by
  simp only [createTable] at h
  split at h
  · cases h
  · split at h
    · cases h
      exact .refl t db.schemas
    · rename_i hnone
      cases h
      refine .inr ⟨fun u hu => ?_, by simp [schemas, TableSchema.made]⟩
      rw [Bool.eq_false_iff]
      exact fun hsame => hnone (table?_isSome_iff.mpr ⟨u, hu, hsame⟩)

/-- The first statement makes the table, and no other one makes any. -/
theorem statements_cons (t : TableSchema) : ∃ rest, t.statements .sqlite = .createTable t :: rest ∧
    ∀ statement ∈ rest, ∀ u, statement ≠ .createTable u := by
  refine ⟨t.indexes.map (.createIndex t.name) ++
    [.dropTrigger t.name t.trigger, .createTrigger t.name t.trigger],
    by simp [TableSchema.statements], ?_⟩
  intro statement h u
  simp only [List.mem_append, List.mem_map, List.mem_cons, List.not_mem_nil, or_false] at h
  rcases h with ⟨index, -, rfl⟩ | rfl | rfl <;> simp

theorem applyAll_statements (t : TableSchema) (db : Database) :
    Grows t (db.table? t.denotedName)
      ((db.applyAll (t.statements .sqlite)).1.table? t.denotedName) ∧
    ((db.applyAll (t.statements .sqlite)).2 = none →
      ((db.applyAll (t.statements .sqlite)).1.table? t.denotedName).isSome = true) := by
  obtain ⟨rest, hr, hs⟩ := statements_cons t
  rw [hr, applyAll]
  cases ha : db.apply (.createTable t) with
  | error fault => exact ⟨.refl _ _, fun h => by cases h⟩
  | ok after =>
    obtain ⟨hg, hsome⟩ := createTable_ok ha
    have ht : (after.applyAll rest).1.table? t.denotedName = after.table? t.denotedName := by
      simp only [table?, tables_applyAll hs]
    simp only [ht]
    exact ⟨hg, fun _ => hsome⟩

theorem joins_applyAll (t : TableSchema) (db : Database) :
    Joins t db.schemas (db.applyAll (t.statements .sqlite)).1.schemas := by
  obtain ⟨rest, hr, hs⟩ := statements_cons t
  rw [hr, applyAll]
  cases ha : db.apply (.createTable t) with
  | error fault => exact .refl t db.schemas
  | ok after =>
    have htables : (after.applyAll rest).1.schemas = after.schemas := by
      simp only [schemas, tables_applyAll hs]
    simp only [htables]
    exact joins_createTable ha

end Database

/-! ## The table that a store reaches -/

namespace Store

open EntityStore.Action

/-- The table of an entity in the database that a store reaches. -/
def table? (t : TableSchema) (s : Store) : Option Table := s.database?.bind (·.table? t.denotedName)

/-- The schemas of all tables that a store reaches. -/
def schemas (s : Store) : List TableSchema := (s.database?.map (·.schemas)).getD []

/-- The rows of an entity; none where there is no table yet. -/
def rows (t : TableSchema) (s : Store) : List Row := ((s.table? t).map (·.rows)).getD []

/-- One store comes from another by making the table of an entity, as far as that went. -/
structure Extends (t : TableSchema) (s s' : Store) : Prop where
  link : s'.link = s.link
  files : s'.files = s.files
  paging : s'.paging = s.paging
  clock : s'.clock = s.clock
  reached : s'.database?.isSome = s.database?.isSome
  table : Grows t (s.table? t) (s'.table? t)
  schemas : Joins t s.schemas s'.schemas

theorem Extends.refl (t : TableSchema) (s : Store) : Extends t s s :=
  ⟨rfl, rfl, rfl, rfl, rfl, .refl _ _, .refl _ _⟩

theorem Extends.trans {t : TableSchema} {a b c : Store} (h : Extends t a b) (k : Extends t b c) :
    Extends t a c :=
  ⟨k.link.trans h.link, k.files.trans h.files, k.paging.trans h.paging, k.clock.trans h.clock,
    k.reached.trans h.reached, h.table.trans k.table, h.schemas.trans k.schemas⟩

theorem extends_opened (t : TableSchema) (s : Store) : Extends t s s.opened :=
  ⟨rfl, rfl, rfl, rfl, rfl, .refl _ _, .refl _ _⟩

variable {t : TableSchema} {s s' : Store}

/-- One attempt to apply the statements; if it tells of no problem, the table is there. -/
theorem applyOnce_spec {r : Except Failure (Option String)} (h : (applyOnce t).on s = (r, s')) :
    Extends t s s' ∧ s'.applied = s.applied ∧ (r = .ok none → (s'.table? t).isSome = true) := by
  unfold applyOnce at h
  cases hu : s.link.engineTarget s.files with
  | error f =>
    simp only [on_bind, engine_on, hu] at h
    cases h
    exact ⟨.refl t s, rfl, fun h => by cases h⟩
  | ok u =>
    simp only [on_bind, engine_on, hu, on_get] at h
    cases hd : s.databaseAt (s.link.location u) with
    | error fault =>
      have hd' : s.opened.databaseAt (s.link.location u) = .error fault := hd
      simp only [hd', on_pure] at h
      cases h
      exact ⟨extends_opened t s, rfl, fun h => by cases h⟩
    | ok db =>
      have hd' : s.opened.databaseAt (s.link.location u) = .ok db := hd
      have hdb : s.database? = some db := by simp [database?, hu, hd, Except.toOption]
      have hst : s.opened.putDatabase (s.link.location u) (db.applyAll (t.statements .sqlite)).1 =
          s.stored (db.applyAll (t.statements .sqlite)).1 := by simp [stored, hu]
      simp only [hd', on_bind, on_set, on_pure, hst] at h
      have hafter := database?_stored hdb (db.applyAll (t.statements .sqlite)).1
      obtain ⟨hg, hsome⟩ := applyAll_statements t db
      cases h
      refine ⟨⟨by simp, by simp, by simp, by simp, by simp [hafter, hdb], ?_, ?_⟩, by simp, ?_⟩
      · simpa [Store.table?, hafter, hdb] using hg
      · simpa [Store.schemas, hafter, hdb] using joins_applyAll t db
      · intro hr
        have hnone : (db.applyAll (t.statements .sqlite)).2 = none := by simpa using hr
        simpa [Store.table?, hafter] using hsome hnone

theorem hasTable_spec {name : String} {r : Except Failure Bool}
    (h : (hasTable name).on s = (r, s')) : Extends t s s' ∧ s'.applied = s.applied := by
  unfold hasTable at h
  cases hu : s.link.engineTarget s.files with
  | error f =>
    simp only [on_bind, engine_on, hu] at h
    cases h
    exact ⟨.refl t s, rfl⟩
  | ok u =>
    simp only [on_bind, engine_on, hu, on_get] at h
    split at h
    · cases h
      exact ⟨extends_opened t s, rfl⟩
    · cases h
      exact ⟨extends_opened t s, rfl⟩

/-! ## Ensuring the table -/

/-- Ensuring a table, whatever an attempt to apply its statements comes to. -/
def ensureBy (attempt : ℕ → Action (Option String)) (e : Registered) :
    Action (ℕ × Except Failure TableSchema) := do
  if (← get).isApplied e then return (0, .ok e.schema)
  match ← attempt 0 with
  | none =>
    remember e
    return (1, .ok e.schema)
  | some reason =>
    if ← hasTable e.schema.name then
      match ← attempt 1 with
      | none =>
        remember e
        return (2, .ok e.schema)
      | some reason => return (2, .error (.schemaSync e.schema.name reason))
    else return (1, .error (.schemaSync e.schema.name reason))

theorem ensureInterrupted_eq (interruptions : List (Option Interruption)) (e : Registered) :
    ensureInterrupted interruptions e =
      ensureBy (fun i => applyInterrupted e.schema (interruptions.getD i none)) e := rfl

/-- The store with an entity among those that were applied. -/
def marked (s : Store) (e : Registered) : Store := { s with applied := e.place :: s.applied }

/-- The courses that ensuring a table can take: nothing is to be done, an attempt or the look at the
table is thrown out, the first or the second attempt ends without a problem, or a problem stays. -/
inductive Course (attempt : ℕ → Action (Option String)) (e : Registered) (s : Store) :
    Except Failure (ℕ × Except Failure TableSchema) → Store → Prop
  | known (hs : s.isApplied e = true) : Course attempt e s (.ok (0, .ok e.schema)) s
  | thrown {f : Failure} {mid : Store} (hs : s.isApplied e = false)
    (h : (attempt 0).on s = (.error f, mid)) : Course attempt e s (.error f) mid
  | first {after : Store} (hs : s.isApplied e = false) (h : (attempt 0).on s = (.ok none, after)) :
    Course attempt e s (.ok (1, .ok e.schema)) (after.marked e)
  | unseen {reason : String} {f : Failure} {mid seen : Store} (hs : s.isApplied e = false)
    (h : (attempt 0).on s = (.ok (some reason), mid))
    (look : (hasTable e.schema.name).on mid = (.error f, seen)) : Course attempt e s (.error f) seen
  | absent {reason : String} {mid seen : Store} (hs : s.isApplied e = false)
    (h : (attempt 0).on s = (.ok (some reason), mid))
    (look : (hasTable e.schema.name).on mid = (.ok false, seen)) :
    Course attempt e s (.ok (1, .error (.schemaSync e.schema.name reason))) seen
  | thrownAgain {reason : String} {f : Failure} {mid seen after : Store}
    (hs : s.isApplied e = false) (h : (attempt 0).on s = (.ok (some reason), mid))
    (look : (hasTable e.schema.name).on mid = (.ok true, seen))
    (again : (attempt 1).on seen = (.error f, after)) : Course attempt e s (.error f) after
  | second {reason : String} {mid seen after : Store} (hs : s.isApplied e = false)
    (h : (attempt 0).on s = (.ok (some reason), mid))
    (look : (hasTable e.schema.name).on mid = (.ok true, seen))
    (again : (attempt 1).on seen = (.ok none, after)) :
    Course attempt e s (.ok (2, .ok e.schema)) (after.marked e)
  | failed {reason reason' : String} {mid seen after : Store} (hs : s.isApplied e = false)
    (h : (attempt 0).on s = (.ok (some reason), mid))
    (look : (hasTable e.schema.name).on mid = (.ok true, seen))
    (again : (attempt 1).on seen = (.ok (some reason'), after)) :
    Course attempt e s (.ok (2, .error (.schemaSync e.schema.name reason'))) after

theorem course_ensureBy (attempt : ℕ → Action (Option String)) (e : Registered) (s : Store) :
    Course attempt e s ((ensureBy attempt e).on s).1 ((ensureBy attempt e).on s).2 := by
  unfold ensureBy
  cases hs : s.isApplied e with
  | true =>
    simp only [on_bind, on_get, hs, if_true, on_pure]
    exact .known hs
  | false =>
    simp only [on_bind, on_get, hs, Bool.false_eq_true, if_false]
    rcases h₁ : (attempt 0).on s with ⟨_ | _ | reason, s₁⟩
    · exact .thrown hs h₁
    · simp only [remember, on_bind, on_modify, on_pure]
      exact .first hs h₁
    · simp only [on_bind]
      rcases h₂ : (hasTable e.schema.name).on s₁ with ⟨_ | _ | _, s₂⟩
      · exact .unseen hs h₁ h₂
      · exact .absent hs h₁ h₂
      · simp only [if_true, on_bind]
        rcases h₃ : (attempt 1).on s₂ with ⟨_ | _ | _, s₃⟩
        · exact .thrownAgain hs h₁ h₂ h₃
        · simp only [remember, on_bind, on_modify, on_pure]
          exact .second hs h₁ h₂ h₃
        · exact .failed hs h₁ h₂ h₃

/-- Ensuring a table takes one of the courses in which nothing disturbs an attempt. -/
theorem course_ensure {e : Registered} {s s' : Store} {r : Except Failure TableSchema}
    (h : (ensure e).on s = (r, s')) :
    ∃ x, Course (fun _ => applyOnce e.schema) e s x s' ∧ r = x.bind Prod.snd := by
  have hcourse := course_ensureBy (fun _ => applyOnce e.schema) e s
  have heq : ensureInterrupted [] e = ensureBy (fun _ => applyOnce e.schema) e := rfl
  unfold ensure at h
  rw [heq, on_bind] at h
  rcases hx : (ensureBy (fun _ => applyOnce e.schema) e).on s with ⟨f | ⟨n, a⟩, after⟩ <;>
    rw [hx] at h hcourse
  · cases h
    exact ⟨_, hcourse, rfl⟩
  · simp only [on_ofExcept] at h
    cases h
    exact ⟨_, hcourse, rfl⟩

theorem extends_remember (t : TableSchema) (s : Store) (e : Registered) :
    Extends t s { s with applied := e.place :: s.applied } :=
  ⟨rfl, rfl, rfl, rfl, rfl, .refl _ _, .refl _ _⟩

/-- What is known of a store in which the table of an entity was made or not. -/
structure Ensured (e : Registered) (s s' : Store) (ok : Prop) : Prop where
  extension : Extends e.schema s s'
  applied : ok → s'.isApplied e = true
  made : s'.isApplied e = true →
    s.isApplied e = true ∨ (s'.table? e.schema).isSome = true
  marked : ∀ p ∈ s'.applied, p ∈ s.applied ∨ p = e.place

variable {e : Registered}

theorem isApplied_remember (s : Store) :
    isApplied { s with applied := e.place :: s.applied } e = true := by
  simp [isApplied]

/-- An attempt that tells of no problem is the last one. -/
private theorem ensured_made {s₁ s₂ : Store} (hx : Extends e.schema s s₁)
    (ha : s₁.applied = s.applied) (h : (applyOnce e.schema).on s₁ = (.ok none, s₂)) {r : Except Failure TableSchema}
    (hr : r = .ok e.schema) :
    Ensured e s { s₂ with applied := e.place :: s₂.applied } (r.isOk = true) ∧
      ∀ u, r = .ok u → u = e.schema := by
  obtain ⟨hx₂, ha₂, hsome⟩ := applyOnce_spec h
  subst hr
  refine ⟨⟨(hx.trans hx₂).trans (extends_remember _ s₂ e), fun _ => isApplied_remember s₂,
    fun _ => .inr (hsome rfl), ?_⟩, ?_⟩
  · intro p hp
    rw [List.mem_cons, ha₂, ha] at hp
    exact hp.symm
  intro u hu
  cases hu
  rfl

private theorem ensured_failed {s₂ : Store} (hx : Extends e.schema s s₂)
    (ha : s₂.applied = s.applied) (f : Failure) :
    Ensured e s s₂ ((.error f : Except Failure TableSchema).isOk = true) ∧
      ∀ u, (.error f : Except Failure TableSchema) = .ok u → u = e.schema := by
  refine ⟨⟨hx, ?_, fun h => .inl (by rwa [isApplied, ha] at h), fun p hp => .inl (ha ▸ hp)⟩, ?_⟩
  · intro h
    cases h
  · intro u hu
    cases hu

/-- Whatever it answers, the table is made as its descriptor asks or left as it was. -/
theorem ensure_spec {r : Except Failure TableSchema} (h : (ensure e).on s = (r, s')) :
    Ensured e s s' (r.isOk = true) ∧ ∀ u, r = .ok u → u = e.schema := by
  obtain ⟨x, hcourse, rfl⟩ := course_ensure h
  cases hcourse with
  | known hs =>
    exact ⟨⟨.refl _ s, fun _ => hs, fun _ => .inl hs, fun _ => .inl⟩, fun u hu => by cases hu; rfl⟩
  | thrown hs h₁ =>
    obtain ⟨hx, ha, -⟩ := applyOnce_spec h₁
    exact ensured_failed hx ha _
  | first hs h₁ => exact ensured_made (.refl _ s) rfl h₁ rfl
  | unseen hs h₁ h₂ | absent hs h₁ h₂ =>
    obtain ⟨hx₁, ha₁, -⟩ := applyOnce_spec h₁
    obtain ⟨hx₂, ha₂⟩ := hasTable_spec h₂
    exact ensured_failed (hx₁.trans hx₂) (ha₂.trans ha₁) _
  | second hs h₁ h₂ h₃ =>
    obtain ⟨hx₁, ha₁, -⟩ := applyOnce_spec h₁
    obtain ⟨hx₂, ha₂⟩ := hasTable_spec h₂
    exact ensured_made (hx₁.trans hx₂) (ha₂.trans ha₁) h₃ rfl
  | thrownAgain hs h₁ h₂ h₃ | failed hs h₁ h₂ h₃ =>
    obtain ⟨hx₁, ha₁, -⟩ := applyOnce_spec h₁
    obtain ⟨hx₂, ha₂⟩ := hasTable_spec h₂
    obtain ⟨hx₃, ha₃, -⟩ := applyOnce_spec h₃
    exact ensured_failed ((hx₁.trans hx₂).trans hx₃) (ha₃.trans (ha₂.trans ha₁)) _

end Store

end EntityStore
