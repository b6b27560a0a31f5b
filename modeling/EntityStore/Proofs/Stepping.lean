import EntityStore.Proofs.Ensuring
import EntityStore.Proofs.Statements
import Mathlib.Logic.Function.Iterate

/-! # Ensuring a table, step by step

A caller who ensures a table applies one statement at a time, and after a first problem looks once
whether the table is there. Left alone, the caller comes to what ensuring the table comes to.
-/
namespace EntityStore

open Database

/-- Where a caller stands: before the statements that are left of the first or of the second
application, after a problem of the first one, or at the end, with the problem if there was one. -/
inductive Phase where
  | applying (isRetry : Bool) (left : List Statement)
  | looking (reason : String)
  | finished (problem : Option String)
  deriving DecidableEq, Repr

namespace Phase

/-- The caller who has these statements left. -/
def applied (isRetry : Bool) : List Statement → Phase
  | [] => finished none
  | left => applying isRetry left

/-- The caller whose statement was refused. -/
def refused (isRetry : Bool) (reason : String) : Phase :=
  if isRetry then finished (some reason) else looking reason

/-- One step of a caller, which reads and changes the database at once. -/
def step (t : TableSchema) : Phase × Database → Phase × Database
  | (applying _ [], db) => (finished none, db)
  | (applying isRetry (statement :: left), db) =>
    match db.apply statement with
    | .ok after => (applied isRetry left, after)
    | .error fault => (refused isRetry (fault.report (some (statement.sql .sqlite))), db)
  | (looking reason, db) =>
    (if db.has t.name then applying true (t.statements .sqlite) else finished (some reason), db)
  | (finished problem, db) => (finished problem, db)

variable {t : TableSchema} {p : Phase} {db mid : Database} {isRetry : Bool}

theorem applied_of_ne_nil {left : List Statement} (h : left ≠ []) :
    applied isRetry left = applying isRetry left := by
  cases left with
  | nil => exact absurd rfl h
  | cons statement left => rfl

/-! ## How long a caller takes -/

/-- A bound on the steps that a caller still takes. -/
def rank (t : TableSchema) : Phase → ℕ
  | applying false left => left.length + (t.statements .sqlite).length + 3
  | applying true left => left.length + 1
  | looking _ => (t.statements .sqlite).length + 2
  | finished _ => 0

/-- The steps that are enough for a caller, whatever others do in between. -/
def patience (t : TableSchema) : ℕ := rank t (applying false (t.statements .sqlite))

theorem rank_eq_zero : rank t p = 0 ↔ ∃ problem, p = finished problem := by
  rcases p with ⟨_ | _, left⟩ | reason | problem <;> simp [rank]

theorem rank_step (t : TableSchema) (p : Phase) (db : Database) :
    rank t (step t (p, db)).1 ≤ rank t p - 1 := by
  have happlied : ∀ isRetry left, rank t (applied isRetry left) ≤ rank t (applying isRetry left) := by
    intro isRetry left
    cases left with
    | nil => simp [applied, rank]
    | cons statement left => exact Nat.le_refl _
  rcases p with ⟨isRetry, _ | ⟨statement, left⟩⟩ | reason | problem
  · simp [step, rank]
  · simp only [step]
    cases db.apply statement with
    | ok after =>
      have hlength : rank t (applying isRetry left) ≤
          rank t (applying isRetry (statement :: left)) - 1 := by
        cases isRetry <;> simp only [rank, List.length_cons] <;> omega
      exact Nat.le_trans (happlied isRetry left) hlength
    | error fault =>
      cases isRetry <;>
        simp only [refused, rank, List.length_cons, if_true, if_false, Bool.false_eq_true] <;> omega
  · simp only [step]
    split <;> simp [rank]
  · simp [step, rank]

/-! ## Several steps -/

/-- A caller who is left alone comes from one place to another. -/
def Leads (t : TableSchema) (x y : Phase × Database) : Prop := ∃ k, (step t)^[k] x = y

theorem Leads.trans {x y z : Phase × Database} (h : Leads t x y) (k : Leads t y z) : Leads t x z := by
  obtain ⟨m, rfl⟩ := h
  obtain ⟨n, rfl⟩ := k
  exact ⟨n + m, Function.iterate_add_apply _ _ _ _⟩

theorem Leads.one {x y : Phase × Database} (h : step t x = y) : Leads t x y := ⟨1, h⟩

theorem iterate_finished (k : ℕ) (problem : Option String) (db : Database) :
    (step t)^[k] (finished problem, db) = (finished problem, db) :=
  Function.iterate_fixed rfl k

theorem rank_iterate (t : TableSchema) (k : ℕ) (p : Phase) (db : Database) :
    rank t ((step t)^[k] (p, db)).1 ≤ rank t p - k := by
  induction k with
  | zero => exact Nat.le_refl _
  | succ k ih =>
    rw [Function.iterate_succ_apply']
    have hstep : rank t (step t ((step t)^[k] (p, db))).1 ≤ rank t ((step t)^[k] (p, db)).1 - 1 :=
      rank_step t _ _
    omega

/-- A caller who comes to an end is there after as many steps as are enough. -/
theorem Leads.settled {n : ℕ} {problem : Option String} (h : Leads t (p, db) (finished problem, mid))
    (hn : rank t p ≤ n) : (step t)^[n] (p, db) = (finished problem, mid) := by
  obtain ⟨k, hk⟩ := h
  have hzero : rank t ((step t)^[n] (p, db)).1 = 0 := by
    have hrank := rank_iterate t n p db
    omega
  obtain ⟨problem', hend⟩ := rank_eq_zero.mp hzero
  have hpair : (step t)^[n] (p, db) = (finished problem', ((step t)^[n] (p, db)).2) :=
    Prod.ext hend rfl
  -- either end stays as it is while the steps of the other one are added
  have hboth : (step t)^[k] ((step t)^[n] (p, db)) = (step t)^[n] ((step t)^[k] (p, db)) := by
    rw [← Function.iterate_add_apply, ← Function.iterate_add_apply, Nat.add_comm]
  rw [hk, hpair, iterate_finished, iterate_finished] at hboth
  rw [hpair, hboth]

/-- Statements that are applied without a fault. -/
theorem leads_applied (isRetry : Bool) {done left : List Statement} (hleft : left ≠ [])
    (h : db.applyAll done = (mid, none)) :
    Leads t (applying isRetry (done ++ left), db) (applying isRetry left, mid) := by
  induction done generalizing db with
  | nil =>
    cases h
    exact ⟨0, rfl⟩
  | cons statement rest ih =>
    obtain ⟨after, ha, hrest⟩ := applyAll_cons.mp h
    refine .trans (.one ?_) (ih hrest)
    have hne : rest ++ left ≠ [] := by simp [hleft]
    simp only [List.cons_append, step, ha, applied_of_ne_nil hne]

/-- Statements that are applied without a fault to the last one. -/
theorem leads_finished (isRetry : Bool) {statements : List Statement}
    (h : db.applyAll statements = (mid, none)) :
    Leads t (applying isRetry statements, db) (finished none, mid) := by
  rcases List.eq_nil_or_concat statements with rfl | ⟨first, last, rfl⟩
  · cases h
    exact .one rfl
  · rw [List.concat_eq_append] at h ⊢
    obtain ⟨before, hfirst, hlast⟩ := applyAll_append.mp h
    obtain ⟨after, ha, hend⟩ := applyAll_cons.mp hlast
    cases hend
    refine .trans (leads_applied isRetry (by simp) hfirst) (.one ?_)
    simp only [step, ha, applied]

/-- Statements that are applied up to a fault. -/
theorem leads_refused (t : TableSchema) (isRetry : Bool) {statements : List Statement}
    {fault : Statement × Fault} (h : db.applyAll statements = (mid, some fault)) :
    Leads t (applying isRetry statements, db)
      (refused isRetry (fault.2.report (some (fault.1.sql .sqlite))), mid) := by
  induction statements generalizing db with
  | nil => cases h
  | cons first rest ih =>
    rw [applyAll] at h
    cases ha : db.apply first with
    | error fault' =>
      rw [ha] at h
      cases h
      exact .one (by simp [step, ha])
    | ok after =>
      rw [ha] at h
      have hrest : rest ≠ [] := by
        rintro rfl
        cases h
      refine .trans (.one ?_) (ih h)
      simp only [step, ha, applied_of_ne_nil hrest]

end Phase

namespace Store

open EntityStore.Action Phase

variable {s s' : Store} {db : Database} {e : Registered}

/-- What a caller answers at the end. -/
def answer (t : TableSchema) : Option String → Except Failure TableSchema
  | none => .ok t
  | some reason => .error (.schemaSync t.name reason)

/-- Ensuring a table is what a caller does who is left alone. -/
theorem ensure_alone (h : s.database? = some db) (hs : s.isApplied e = false)
    {r : Except Failure TableSchema} (he : (ensure e).on s = (r, s')) :
    ∃ problem after, (step e.schema)^[patience e.schema]
        (applying false (e.schema.statements .sqlite), db) = (finished problem, after) ∧
      s'.database? = some after ∧ r = answer e.schema problem := by
  suffices hend : ∃ problem after, Leads e.schema
      (applying false (e.schema.statements .sqlite), db) (finished problem, after) ∧
      s'.database? = some after ∧ r = answer e.schema problem by
    obtain ⟨problem, after, hleads, hafter, hr⟩ := hend
    exact ⟨problem, after, hleads.settled (Nat.le_refl _), hafter, hr⟩
  have hlook : ∀ {reason mid}, mid.has e.schema.name = true →
      Leads e.schema (looking reason, mid) (applying true (e.schema.statements .sqlite), mid) :=
    fun hthere => .one (by simp [step, hthere])
  cases ensure_reached h hs he with
  | @once after ha => exact ⟨none, after, leads_finished false ha, database?_stored h after, rfl⟩
  | @twice mid after fault ha there again =>
    have hmid : (s.stored mid).opened.database? = some mid := database?_stored h mid
    refine ⟨none, after, ?_, database?_stored hmid after, rfl⟩
    exact ((leads_refused e.schema false ha).trans (hlook there)).trans (leads_finished true again)
  | @absent mid fault reason ha missing told =>
    cases told
    refine ⟨some _, mid, (leads_refused e.schema false ha).trans (.one ?_), database?_stored h mid, rfl⟩
    simp [refused, step, missing]
  | @failed mid after fault fault' reason ha there again told =>
    cases told
    have hmid : (s.stored mid).opened.database? = some mid := database?_stored h mid
    refine ⟨some _, after, ?_, database?_stored hmid after, rfl⟩
    exact ((leads_refused e.schema false ha).trans (hlook there)).trans
      (leads_refused e.schema true again)

end Store

end EntityStore
