import EntityStore.Proofs.Sessions
import EntityStore.Proofs.Stages
import EntityStore.Proofs.Stepping
import Mathlib.Data.Fintype.Card
import Mathlib.Data.List.FinRange
import Mathlib.Tactic.Set

/-! # Racing for a table

Several callers ensure one table on one empty database, each with a memory of its own, and their steps
come in any order. Tables and indexes that are there are passed over, but the trigger is dropped and
made anew: a caller who finds it made by another one in between begins again, and gives up when that
happens a second time.
-/
namespace EntityStore

open Database

namespace TableSchema

/-- What a caller is told who finds the trigger made by another one. -/
def clashReport (t : TableSchema) : String :=
  t.clash.report (some ((Statement.createTrigger t.name t.trigger).sql .sqlite))

end TableSchema

namespace Database

/-- Whether a table is told of hangs on the tables only. -/
theorem has_congr {db later : Database} (h : later.tables = db.tables) (name : String) :
    later.has name = db.has name := by
  have htable : later.table? name = db.table? name := by rw [table?, table?, h]
  simp only [has, report?, systemTables, List.find?_cons, List.find?_nil, htable]
  cases sameName "sqlite_master" name <;> cases sameName "sqlite_schema" name <;>
    cases sameName "sqlite_temp_master" name <;> cases sameName "sqlite_temp_schema" name <;> simp

end Database

/-! ## One caller -/

namespace Phase

variable {t : TableSchema} {full db : Database} {rest rest' : List Statement} {p : Phase}

/-- Where a caller can stand when `rest` is left of the creations: none is ahead of the database. -/
inductive Stands (t : TableSchema) (rest : List Statement) : Phase → Prop
  | creating {isRetry : Bool} {left : List Statement} (hleft : left <:+ t.creations)
    (hrest : rest <:+ left) : Stands t rest (applying isRetry (left ++ t.renewals))
  | renewing {isRetry : Bool} (hrest : rest = []) :
    Stands t rest (applying isRetry [.createTrigger t.name t.trigger])
  | waiting (hrest : rest = []) : Stands t rest (looking t.clashReport)
  | ensured (hrest : rest = []) : Stands t rest (finished none)
  | failed (hrest : rest = []) : Stands t rest (finished (some t.clashReport))

theorem Stands.mono (h : Stands t rest p) (hsub : rest' <:+ rest) : Stands t rest' p := by
  have hnil : rest = [] → rest' = [] := by
    rintro rfl
    exact List.suffix_nil.mp hsub
  cases h with
  | creating hleft hrest => exact .creating hleft (hsub.trans hrest)
  | renewing hrest => exact .renewing (hnil hrest)
  | waiting hrest => exact .waiting (hnil hrest)
  | ensured hrest => exact .ensured (hnil hrest)
  | failed hrest => exact .failed (hnil hrest)

/-- Whether a caller met a problem. -/
def troubled : Phase → Bool
  | applying isRetry _ => isRetry
  | looking _ => true
  | finished problem => problem.isSome

/-- What a step of a caller can do. -/
inductive Moves (t : TableSchema) (full db : Database) : Phase → Phase × Database → Prop
  | creates {isRetry : Bool} {statement : Statement} {left : List Statement} {after : Database}
    (htriggers : after.triggers = db.triggers) :
    Moves t full db (applying isRetry (statement :: (left ++ t.renewals)))
      (applying isRetry (left ++ t.renewals), after)
  | drops {isRetry : Bool} : Moves t full db (applying isRetry t.renewals)
      (applying isRetry [.createTrigger t.name t.trigger], { db with triggers := [] })
  | renews {isRetry : Bool} (hnone : db.triggers = []) :
    Moves t full db (applying isRetry [.createTrigger t.name t.trigger]) (finished none, full)
  | clashes {isRetry : Bool} (hsome : db.triggers = full.triggers) :
    Moves t full db (applying isRetry [.createTrigger t.name t.trigger])
      (refused isRetry t.clashReport, db)
  | retries (hfound : full.has t.name = true) :
    Moves t full db (looking t.clashReport) (applying true (t.statements .sqlite), db)
  | fails (hmissed : full.has t.name = false) :
    Moves t full db (looking t.clashReport) (finished (some t.clashReport), db)
  | rests {problem : Option String} :
    Moves t full db (finished problem) (finished problem, db)

/-- The step of a caller is one of these, and leaves the database where it is or takes it on. -/
structure Advances (t : TableSchema) (full : Database) (rest : List Statement) (p : Phase)
    (db : Database) : Prop where
  moves : Moves t full db p (step t (p, db))
  ahead : ∃ rest', rest' <:+ rest ∧ Nearing t full rest' (step t (p, db)).2 ∧
    Stands t rest' (step t (p, db)).1

section Steps

variable (hfull : ({} : Database).applyAll (t.statements .sqlite) = (full, none))
include hfull

theorem advances_creating {isRetry : Bool} {left : List Statement} (hnear : Nearing t full rest db)
    (hleft : left <:+ t.creations) (hrest : rest <:+ left) :
    Advances t full rest (applying isRetry (left ++ t.renewals)) db := by
  cases left with
  | nil =>
    have hnil := List.suffix_nil.mp hrest
    subst hnil
    have hstep : Phase.step t (applying isRetry t.renewals, db) =
        (applying isRetry [.createTrigger t.name t.trigger], { db with triggers := [] }) := by
      simp only [TableSchema.renewals, Phase.step, apply, hnear.dropTrigger hfull, applied]
    refine ⟨?_, ?_⟩ <;> rw [List.nil_append, hstep]
    · exact .drops
    · exact ⟨[], List.suffix_refl _, ⟨hnear.underway.withTriggers _, .inl rfl⟩, .renewing rfl⟩
  | cons statement left =>
    obtain ⟨after, rest', happly, htriggers, hunderway, hahead, hsub⟩ :=
      hnear.underway.step hfull hleft hrest
    have hne : left ++ t.renewals ≠ [] := by simp [TableSchema.renewals]
    have hstep : Phase.step t (applying isRetry (statement :: (left ++ t.renewals)), db) =
        (applying isRetry (left ++ t.renewals), after) := by
      simp only [Phase.step, happly, applied_of_ne_nil hne]
    refine ⟨?_, ?_⟩ <;> rw [List.cons_append, hstep]
    · exact .creates htriggers
    · exact ⟨rest', hsub, ⟨hunderway, htriggers ▸ hnear.triggers⟩,
        .creating ((List.suffix_cons _ _).trans hleft) hahead⟩

theorem advances_renewing {isRetry : Bool} (hnear : Nearing t full [] db) :
    Advances t full [] (applying isRetry [.createTrigger t.name t.trigger]) db := by
  rcases hnear.triggers with hnone | hsome
  · have hstep : Phase.step t (applying isRetry [.createTrigger t.name t.trigger], db) =
        (finished none, full) := by
      simp only [Phase.step, hnear.underway.createTrigger hfull hnone, applied]
    refine ⟨?_, ?_⟩ <;> rw [hstep]
    · exact .renews hnone
    · exact ⟨[], List.suffix_refl _, nearing_full hfull, .ensured rfl⟩
  · have hstep : Phase.step t (applying isRetry [.createTrigger t.name t.trigger], db) =
        (refused isRetry t.clashReport, db) := by
      simp only [Phase.step, hnear.underway.createTrigger_clash hfull hsome]
      rfl
    refine ⟨?_, ?_⟩ <;> rw [hstep]
    · exact .clashes hsome
    · refine ⟨[], List.suffix_refl _, hnear, ?_⟩
      cases isRetry with
      | false => exact .waiting rfl
      | true => exact .failed rfl

theorem advances_waiting (hnear : Nearing t full [] db) :
    Advances t full [] (looking t.clashReport) db := by
  have htables : full.tables = db.tables := by rw [hnear.underway.eq_full hfull]
  have hhas : db.has t.name = full.has t.name := (has_congr htables t.name).symm
  cases hfound : full.has t.name with
  | true =>
    have hstep : Phase.step t (looking t.clashReport, db) =
        (applying true (t.statements .sqlite), db) := by
      simp only [Phase.step, hhas, hfound, if_true]
    refine ⟨?_, ?_⟩ <;> rw [hstep]
    · exact .retries hfound
    · refine ⟨[], List.suffix_refl _, hnear, ?_⟩
      rw [t.statements_eq]
      exact .creating (List.suffix_refl _) (List.nil_suffix)
  | false =>
    have hstep : Phase.step t (looking t.clashReport, db) =
        (finished (some t.clashReport), db) := by
      simp only [Phase.step, hhas, hfound, Bool.false_eq_true, if_false]
    refine ⟨?_, ?_⟩ <;> rw [hstep]
    · exact .fails hfound
    · exact ⟨[], List.suffix_refl _, hnear, .failed rfl⟩

theorem Stands.step (hnear : Nearing t full rest db) (h : Stands t rest p) :
    Advances t full rest p db := by
  cases h with
  | creating hleft hrest => exact advances_creating hfull hnear hleft hrest
  | renewing hrest =>
    subst hrest
    exact advances_renewing hfull hnear
  | waiting hrest =>
    subst hrest
    exact advances_waiting hfull hnear
  | ensured hrest => exact ⟨.rests, rest, List.suffix_refl _, hnear, .ensured hrest⟩
  | failed hrest => exact ⟨.rests, rest, List.suffix_refl _, hnear, .failed hrest⟩

end Steps

end Phase

/-! ## Several callers -/

/-- A database and the callers who ensure one table in it. -/
structure Race (n : ℕ) where
  db : Database
  callers : Fin n → Phase

namespace Race

open Phase

variable {n : ℕ} {t : TableSchema} {full : Database}

/-- Every caller at the first statement, and nothing in the database. -/
def begun (t : TableSchema) (n : ℕ) : Race n := ⟨{}, fun _ => .applying false (t.statements .sqlite)⟩

/-- One caller comes to another place, and the database with it. -/
def move (race : Race n) (i : Fin n) (place : Phase × Database) : Race n :=
  ⟨place.2, Function.update race.callers i place.1⟩

@[simp] theorem move_self (race : Race n) (i : Fin n) (place : Phase × Database) :
    (race.move i place).callers i = place.1 := Function.update_self _ _ _

theorem move_of_ne (race : Race n) {i j : Fin n} (h : j ≠ i) (place : Phase × Database) :
    (race.move i place).callers j = race.callers j := Function.update_of_ne h _ _

/-- One caller takes one step. -/
def step (t : TableSchema) (race : Race n) (i : Fin n) : Race n :=
  race.move i (Phase.step t (race.callers i, race.db))

/-- Callers take one step each time that they have a turn. -/
def run (t : TableSchema) (race : Race n) (schedule : List (Fin n)) : Race n :=
  schedule.foldl (step t) race

/-- Every caller has as many turns as are enough. -/
def Fair (t : TableSchema) (schedule : List (Fin n)) : Prop := ∀ i, patience t ≤ schedule.count i

theorem run_append (race : Race n) (first second : List (Fin n)) :
    race.run t (first ++ second) = (race.run t first).run t second := List.foldl_append

/-! ### Coming to an end -/

theorem rank_run (race : Race n) (schedule : List (Fin n)) (i : Fin n) :
    rank t ((race.run t schedule).callers i) ≤ rank t (race.callers i) - schedule.count i := by
  induction schedule generalizing race with
  | nil => exact Nat.le_refl _
  | cons j rest ih =>
    refine (ih (race.step t j)).trans ?_
    by_cases hij : j = i
    · subst hij
      have hstep := rank_step t (race.callers j) race.db
      simp only [step, move_self, List.count_cons_self]
      omega
    · simp only [step, move_of_ne _ (Ne.symm hij), List.count_cons_of_ne hij, le_refl]

theorem run_finished {race : Race n} {i : Fin n} {problem : Option String}
    (h : race.callers i = finished problem) (schedule : List (Fin n)) :
    (race.run t schedule).callers i = finished problem := by
  induction schedule generalizing race with
  | nil => exact h
  | cons j rest ih =>
    refine ih ?_
    by_cases hij : j = i
    · subst hij
      simp [step, h, Phase.step]
    · simp [step, move_of_ne _ (Ne.symm hij), h]

theorem fair_finished {schedule : List (Fin n)} (h : Fair t schedule) (i : Fin n) :
    ∃ problem, ((begun t n).run t schedule).callers i = finished problem := by
  have hrank : rank t (((begun t n).run t schedule).callers i) ≤ patience t - schedule.count i :=
    rank_run (begun t n) schedule i
  have hturns := h i
  exact (rank_eq_zero (t := t)).mp (by omega)

/-! ### Who succeeds -/

/-- The callers who ensured the table. -/
def winners (race : Race n) : ℕ :=
  (Finset.univ.filter fun i => race.callers i = finished none).card

theorem winners_lt {race : Race n} {i : Fin n} (h : race.callers i ≠ finished none) :
    race.winners < n := by
  have hother : i ∉ Finset.univ.filter fun j => race.callers j = finished none := by simpa using h
  have hlt := Finset.card_lt_univ_of_notMem hother
  simpa [winners] using hlt

theorem winners_move {race : Race n} {i : Fin n} (h : race.callers i ≠ finished none)
    (place : Phase × Database) :
    (race.move i place).winners = race.winners + if place.1 = finished none then 1 else 0 := by
  by_cases hp : place.1 = finished none
  · have hset : (Finset.univ.filter fun j => (race.move i place).callers j = finished none) =
        insert i (Finset.univ.filter fun j => race.callers j = finished none) := by
      ext j
      by_cases hj : j = i
      · subst hj
        simp [hp]
      · simp [move_of_ne race hj, hj]
    rw [winners, hset, Finset.card_insert_of_notMem (by simpa using h), if_pos hp, winners]
  · have hset : (Finset.univ.filter fun j => (race.move i place).callers j = finished none) =
        Finset.univ.filter fun j => race.callers j = finished none := by
      ext j
      by_cases hj : j = i
      · subst hj
        simp [hp, h]
      · simp [move_of_ne race hj]
    rw [winners, hset, if_neg hp, winners, Nat.add_zero]

/-- What holds at every moment of a race. -/
structure Racing (t : TableSchema) (full : Database) (race : Race n) : Prop where
  /-- No caller is ahead of the database. -/
  stage : ∃ rest, Nearing t full rest race.db ∧ ∀ i, Stands t rest (race.callers i)
  /-- Where there is no trigger, someone has yet to make it. -/
  pending : 0 < n → race.db.triggers = full.triggers ∨
    ∃ i isRetry left, race.callers i = applying isRetry left
  /-- Who makes the trigger succeeds. -/
  made : race.db.triggers = full.triggers → 1 ≤ race.winners
  /-- Who met a problem met a trigger that another one had made. -/
  troubled : ∀ i, (race.callers i).troubled = true → 1 ≤ race.winners
  /-- Who dropped the trigger a second time and finds it there has lost to two others. -/
  outrun : ∀ i, race.callers i = applying true [.createTrigger t.name t.trigger] →
    race.db.triggers = full.triggers → 2 ≤ race.winners
  /-- Who fails has lost to two others, if the table is found by its name. -/
  failed : ∀ i reason, race.callers i = finished (some reason) → full.has t.name = true →
    2 ≤ race.winners

variable {race : Race n}

theorem racing_begun (hne : full.triggers ≠ []) : Racing t full (begun t n) := by
  refine ⟨⟨t.creations, nearing_empty t full, fun i => ?_⟩, ?_, ?_, ?_, ?_, ?_⟩
  · have hstart : Stands t t.creations (applying false (t.creations ++ t.renewals)) :=
      .creating (List.suffix_refl _) (List.suffix_refl _)
    rwa [← t.statements_eq] at hstart
  · intro hn
    exact .inr ⟨⟨0, hn⟩, _, _, rfl⟩
  · intro h
    exact absurd h.symm hne
  · intro i h
    cases h
  · intro i h
    cases h
  · intro i reason h
    cases h

/-- What is left to show when one caller moves. -/
theorem Racing.move (h : Racing t full race) {i : Fin n} {p : Phase} {db : Database}
    (hstage : ∃ rest, Nearing t full rest db ∧ ∀ j, Stands t rest ((race.move i (p, db)).callers j))
    (hpending : db.triggers = full.triggers ∨
      ∃ j isRetry left, (race.move i (p, db)).callers j = applying isRetry left)
    (hmono : race.winners ≤ (race.move i (p, db)).winners)
    (hmade : db.triggers = full.triggers → race.db.triggers = full.triggers ∨
      race.winners + 1 ≤ (race.move i (p, db)).winners)
    (htroubled : p.troubled = true → 1 ≤ race.winners)
    (houtrun : p = applying true [.createTrigger t.name t.trigger] → db.triggers ≠ full.triggers)
    (hfailed : ∀ reason, p = finished (some reason) → full.has t.name = true → 2 ≤ race.winners) :
    Racing t full (race.move i (p, db)) := by
  refine ⟨hstage, fun _ => hpending, ?_, fun j hj => ?_, fun j hj hsome => ?_, fun j reason hj hn => ?_⟩
  · intro hsome
    rcases hmade hsome with hbefore | hmore
    · exact (h.made hbefore).trans hmono
    · exact (Nat.le_add_left 1 _).trans hmore
  · by_cases hij : j = i
    · subst hij
      rw [move_self] at hj
      exact (htroubled hj).trans hmono
    · rw [move_of_ne race hij] at hj
      exact (h.troubled j hj).trans hmono
  · by_cases hij : j = i
    · subst hij
      rw [move_self] at hj
      exact absurd hsome (houtrun hj)
    · rw [move_of_ne race hij] at hj
      rcases hmade hsome with hbefore | hmore
      · exact (h.outrun j hj hbefore).trans hmono
      · -- the caller who made the trigger just now is not the one who had made it before
        have hone := h.troubled j (by rw [hj]; rfl)
        exact (Nat.add_le_add_right hone 1).trans hmore
  · by_cases hij : j = i
    · subst hij
      rw [move_self] at hj
      exact (hfailed reason hj hn).trans hmono
    · rw [move_of_ne race hij] at hj
      exact (h.failed j reason hj hn).trans hmono

/-- The step of one caller leaves no caller ahead of the database. -/
theorem Racing.stage_step (hfull : ({} : Database).applyAll (t.statements .sqlite) = (full, none))
    (h : Racing t full race) (i : Fin n) :
    Moves t full race.db (race.callers i) (Phase.step t (race.callers i, race.db)) ∧
      ∃ rest, Nearing t full rest (Phase.step t (race.callers i, race.db)).2 ∧
        ∀ j, Stands t rest ((race.step t i).callers j) := by
  obtain ⟨rest, hnear, hstands⟩ := h.stage
  obtain ⟨hmoves, rest', hsub, hnear', hstands'⟩ := (hstands i).step hfull hnear
  refine ⟨hmoves, rest', hnear', fun j => ?_⟩
  by_cases hij : j = i
  · subst hij
    rwa [Race.step, move_self]
  · rw [Race.step, move_of_ne race hij]
    exact (hstands j).mono hsub

/-- A caller who does not apply statements leaves the missing trigger to another one. -/
theorem Racing.pending_move (h : Racing t full race) {i : Fin n} (place : Phase × Database)
    (hi : ∀ isRetry left, race.callers i ≠ applying isRetry left) :
    race.db.triggers = full.triggers ∨
      ∃ j isRetry left, (race.move i place).callers j = applying isRetry left := by
  rcases h.pending i.pos with hsome | ⟨j, isRetry, left, hj⟩
  · exact .inl hsome
  · have hij : j ≠ i := by
      rintro rfl
      exact hi isRetry left hj
    exact .inr ⟨j, isRetry, left, by rw [move_of_ne race hij, hj]⟩

theorem Racing.step (hfull : ({} : Database).applyAll (t.statements .sqlite) = (full, none))
    (hne : full.triggers ≠ []) (h : Racing t full race) (i : Fin n) :
    Racing t full (race.step t i) := by
  obtain ⟨hmoves, hstage⟩ := h.stage_step hfull i
  have hone := h.troubled i
  have hwinners := @winners_move n race i
  have hpending := @Racing.pending_move _ _ _ _ h i
  have houtrun := h.outrun i
  rw [Race.step] at hstage ⊢
  generalize hp : race.callers i = p at *
  generalize Phase.step t (p, race.db) = place at *
  cases hmoves with
  | @creates isRetry statement left after htriggers =>
    have hw := hwinners (by simp) (applying isRetry (left ++ t.renewals), after)
    refine h.move hstage (.inr ⟨i, isRetry, _, move_self _ _ _⟩) (by simp [hw])
      (fun hsome => .inl (htriggers ▸ hsome)) hone (fun heq => ?_) (fun _ heq => by cases heq)
    -- two statements at least are left, so the trigger is not the only thing missing
    have hlength := congrArg List.length (Phase.applying.inj heq).2
    simp [TableSchema.renewals] at hlength
  | @drops isRetry =>
    have hw := hwinners (by simp)
      (applying isRetry [.createTrigger t.name t.trigger], { race.db with triggers := [] })
    exact h.move hstage (.inr ⟨i, isRetry, _, move_self _ _ _⟩) (by simp [hw])
      (fun hsome => absurd hsome.symm hne) hone (fun _ => hne.symm) (fun _ heq => by cases heq)
  | @renews isRetry hnone =>
    have hw := hwinners (by simp) (finished none, full)
    exact h.move hstage (.inl rfl) (by simp [hw]) (fun _ => .inr (by simp [hw]))
      (fun heq => by cases heq) (fun heq => by cases heq) (fun _ heq => by cases heq)
  | @clashes isRetry hsome =>
    -- the trigger that is there was made by a winner, and by a second one if this is the second try
    have hmade := h.made hsome
    cases isRetry with
    | false =>
      have hw := hwinners (by simp) (refused false t.clashReport, race.db)
      exact h.move hstage (.inl hsome) (by simp [hw]) .inl (fun _ => hmade)
        (fun heq => by cases heq) (fun _ heq => by cases heq)
    | true =>
      have hw := hwinners (by simp) (refused true t.clashReport, race.db)
      exact h.move hstage (.inl hsome) (by simp [hw]) .inl (fun _ => hmade)
        (fun heq => by cases heq) (fun _ _ _ => houtrun rfl hsome)
  | retries hfound =>
    have hw := hwinners (by simp) (applying true (t.statements .sqlite), race.db)
    refine h.move hstage (.inr ⟨i, true, _, move_self _ _ _⟩) (by simp [hw]) .inl (fun _ => hone rfl)
      (fun heq => ?_) (fun _ heq => by cases heq)
    have hlength := congrArg List.length (Phase.applying.inj heq).2
    simp [t.statements_eq, TableSchema.renewals] at hlength
  | fails hmissed =>
    have hw := hwinners (by simp) (finished (some t.clashReport), race.db)
    refine h.move hstage (hpending _ (by simp)) (by simp [hw]) .inl (fun _ => hone rfl)
      (fun heq => by cases heq) (fun _ _ hfound => ?_)
    rw [hmissed] at hfound
    cases hfound
  | @rests problem =>
    have hsame : race.move i (finished problem, race.db) = race := by
      rw [Race.move, ← hp, Function.update_eq_self]
    rwa [hsame]

theorem Racing.run (hfull : ({} : Database).applyAll (t.statements .sqlite) = (full, none))
    (hne : full.triggers ≠ []) (h : Racing t full race) (schedule : List (Fin n)) :
    Racing t full (race.run t schedule) := by
  induction schedule generalizing race with
  | nil => exact h
  | cons i rest ih => exact ih (h.step hfull hne i)

/-! ### How it ends -/

/-- At the end the database is what a single application makes of it. -/
theorem Racing.ended (hfull : ({} : Database).applyAll (t.statements .sqlite) = (full, none))
    (h : Racing t full race) (hn : 0 < n) (hend : ∀ i, ∃ problem, race.callers i = finished problem) :
    race.db = full := by
  obtain ⟨rest, hnear, hstands⟩ := h.stage
  have hnil : rest = [] := by
    obtain ⟨problem, hp⟩ := hend ⟨0, hn⟩
    have hstand := hstands ⟨0, hn⟩
    rw [hp] at hstand
    cases hstand with
    | ensured hrest => exact hrest
    | failed hrest => exact hrest
  subst hnil
  have htriggers : race.db.triggers = full.triggers := by
    rcases h.pending hn with hsome | ⟨i, isRetry, left, hi⟩
    · exact hsome
    · obtain ⟨problem, hp⟩ := hend i
      rw [hp] at hi
      cases hi
  rw [hnear.underway.eq_full hfull, ← htriggers]

/-- There is one way to fail. -/
theorem Racing.problem_eq (h : Racing t full race) {i : Fin n} {reason : String}
    (hi : race.callers i = finished (some reason)) : reason = t.clashReport := by
  obtain ⟨rest, -, hstands⟩ := h.stage
  have hstand := hstands i
  rw [hi] at hstand
  cases hstand
  rfl

/-! ### How a caller comes to fail -/

theorem run_leads {i : Fin n} {place : Phase × Database}
    (h : Leads t (race.callers i, race.db) place) :
    ∃ k, race.run t (List.replicate k i) = race.move i place := by
  obtain ⟨k, rfl⟩ := h
  refine ⟨k, ?_⟩
  induction k generalizing race with
  | zero => rw [Function.iterate_zero_apply, move, Function.update_eq_self]; rfl
  | succ k ih =>
    rw [List.replicate_succ, run, List.foldl_cons, ← run, ih, Function.iterate_succ_apply]
    simp [step, move]

section Overtaking

variable (hfull : ({} : Database).applyAll (t.statements .sqlite) = (full, none))
include hfull

/-- A caller who begins comes to the point where only the trigger is missing. -/
theorem leads_dropped {rest : List Statement} {db : Database} (h : Nearing t full rest db)
    (isRetry : Bool) : Leads t (applying isRetry (t.statements .sqlite), db)
      (applying isRetry [.createTrigger t.name t.trigger], { full with triggers := [] }) := by
  obtain ⟨made, hmade, hnear⟩ := h.creations hfull
  have hdropped : made.apply (.dropTrigger t.name t.trigger) = .ok { full with triggers := [] } := by
    rw [hnear.underway.eq_full hfull]
    exact congrArg Except.ok (hnear.dropTrigger hfull)
  have hall : db.applyAll (t.creations ++ [.dropTrigger t.name t.trigger]) =
      ({ full with triggers := [] }, none) :=
    applyAll_append.mpr ⟨made, hmade, applyAll_cons.mpr ⟨_, hdropped, rfl⟩⟩
  have hleads := @leads_applied t db _ isRetry _ [.createTrigger t.name t.trigger] (by simp) hall
  rwa [List.append_assoc, List.singleton_append, ← TableSchema.renewals, ← t.statements_eq] at hleads

/-- A caller who dropped the trigger is overtaken by one who has yet to begin. -/
theorem overtaken {x y : Fin n} (hxy : y ≠ x) {isRetry : Bool}
    (hx : Leads t (race.callers x, race.db)
      (applying isRetry [.createTrigger t.name t.trigger], { full with triggers := [] }))
    (hy : race.callers y = applying false (t.statements .sqlite)) :
    ∃ schedule, (race.run t schedule).db = full ∧
      (race.run t schedule).callers x = refused isRetry t.clashReport ∧
      ∀ j, j ≠ x → j ≠ y → (race.run t schedule).callers j = race.callers j := by
  have hnear : Nearing t full [] { full with triggers := [] } :=
    ⟨(nearing_full hfull).underway.withTriggers [], .inl rfl⟩
  obtain ⟨k, hdropped⟩ := run_leads hx
  set second := race.move x
    (applying isRetry [.createTrigger t.name t.trigger], { full with triggers := [] }) with hsecond
  have hother : Leads t (second.callers y, second.db) (finished none, full) := by
    rw [hsecond, move_of_ne race hxy, hy]
    exact leads_finished false (hnear.applyAll hfull)
  obtain ⟨m, hmade⟩ := run_leads hother
  set third := second.move y (finished none, full) with hthird
  have hclash : Leads t (third.callers x, third.db) (refused isRetry t.clashReport, full) := by
    rw [hthird, move_of_ne second hxy.symm, hsecond, move_self]
    refine .one ?_
    simp only [Phase.step, move, (nearing_full hfull).underway.createTrigger_clash hfull rfl]
    rfl
  obtain ⟨l, hrefused⟩ := run_leads hclash
  refine ⟨List.replicate k x ++ (List.replicate m y ++ List.replicate l x), ?_⟩
  rw [run_append, hdropped, run_append, hmade, hrefused]
  refine ⟨rfl, move_self _ _ _, fun j hjx hjy => ?_⟩
  rw [move_of_ne third hjx, hthird, move_of_ne second hjy, hsecond, move_of_ne race hjx]

/-- With a third caller, or where the table is not found by its name, someone can fail. -/
theorem exists_failing (hn : 2 ≤ n) (hmany : 3 ≤ n ∨ full.has t.name = false) :
    ∃ (schedule : List (Fin n)) (i : Fin n),
      ((begun t n).run t schedule).callers i = finished (some t.clashReport) := by
  have hx : (⟨1, by omega⟩ : Fin n) ≠ ⟨0, by omega⟩ := by simp
  obtain ⟨first, hdb, hlooking, hothers⟩ := @overtaken n t full (begun t n) hfull _ _ hx false
    (leads_dropped hfull (nearing_empty t full) false) rfl
  set x : Fin n := ⟨0, by omega⟩
  cases hfound : full.has t.name with
  | false =>
    have hfail : Leads t (((begun t n).run t first).callers x, ((begun t n).run t first).db)
        (finished (some t.clashReport), full) := by
      rw [hdb, hlooking]
      exact .one (by simp [refused, Phase.step, hfound])
    obtain ⟨k, hrun⟩ := run_leads hfail
    refine ⟨first ++ List.replicate k x, x, ?_⟩
    rw [run_append, hrun, move_self]
  | true =>
    have hthree : 3 ≤ n := by simpa [hfound] using hmany
    have hretry : Leads t (((begun t n).run t first).callers x, ((begun t n).run t first).db)
        (applying true [.createTrigger t.name t.trigger], { full with triggers := [] }) := by
      rw [hdb, hlooking]
      refine .trans (.one ?_) (leads_dropped hfull (nearing_full hfull) true)
      simp [refused, Phase.step, hfound]
    have hy : (⟨2, by omega⟩ : Fin n) ≠ x := by simp [x]
    obtain ⟨second, -, hfailed, -⟩ := overtaken hfull hy hretry
      (by rw [hothers _ hy (by simp)]; rfl)
    refine ⟨first ++ second, x, ?_⟩
    rw [run_append, hfailed]
    rfl

end Overtaking

/-- Turns for everyone until everyone is at the end. -/
def rounds (t : TableSchema) (n : ℕ) : List (Fin n) :=
  (List.replicate (patience t) (List.finRange n)).flatten

theorem fair_append_rounds (t : TableSchema) (schedule : List (Fin n)) :
    Fair t (schedule ++ rounds t n) := by
  intro i
  have hcount : (rounds t n).count i = patience t := by
    rw [rounds, List.count_flatten, List.map_replicate, List.sum_replicate,
      List.count_eq_one_of_mem (List.nodup_finRange n) (List.mem_finRange i)]
    simp
  rw [List.count_append, hcount]
  exact Nat.le_add_left _ _

end Race

namespace Store

open Phase Race

/-- Any number of callers ensure one table on an empty database, in any order of their steps. All come
to an end and the database is what a single application makes of it. A caller who fails has lost the
trigger to others who succeed, and none can fail exactly if there are at most two of them, or just one
where the table is not found by its name. -/
theorem race_settled {e : Registered} {full : Database} (n : ℕ)
    (hfull : ({} : Database).applyAll (e.schema.statements .sqlite) = (full, none)) :
    (∀ schedule : List (Fin n), Fair e.schema schedule →
      (0 < n → ((begun e.schema n).run e.schema schedule).db = full) ∧
      ∀ i, ∃ problem, ((begun e.schema n).run e.schema schedule).callers i = finished problem ∧
        ∀ reason, problem = some reason → reason = e.schema.clashReport ∧
          1 ≤ ((begun e.schema n).run e.schema schedule).winners ∧
          (full.has e.schema.name = true →
            2 ≤ ((begun e.schema n).run e.schema schedule).winners)) ∧
    ((∀ schedule : List (Fin n), Fair e.schema schedule →
      ∀ i, ((begun e.schema n).run e.schema schedule).callers i = finished none) ↔
        n ≤ 1 ∨ n = 2 ∧ full.has e.schema.name = true) ∧
    ∀ (s s' : Store) (db : Database) (r : Except Failure TableSchema), s.database? = some db →
      s.isApplied e = false → (ensure e).on s = (r, s') → ∃ problem after,
        (Phase.step e.schema)^[patience e.schema]
          (applying false (e.schema.statements .sqlite), db) = (finished problem, after) ∧
        s'.database? = some after ∧ r = answer e.schema problem := by
  have hne : full.triggers ≠ [] := by
    obtain ⟨made, tbl, -, -, rfl⟩ := completed hfull
    simp
  have hracing : ∀ schedule : List (Fin n),
      Racing e.schema full ((begun e.schema n).run e.schema schedule) :=
    fun schedule => (racing_begun hne).run hfull hne schedule
  refine ⟨fun schedule hfair => ⟨fun hn => ?_, fun i => ?_⟩, ⟨fun hall => ?_, ?_⟩,
    fun s s' db r hdb hs he => ensure_alone hdb hs he⟩
  · exact (hracing schedule).ended hfull hn fun i => fair_finished hfair i
  · obtain ⟨problem, hproblem⟩ := fair_finished hfair i
    refine ⟨problem, hproblem, ?_⟩
    rintro reason rfl
    exact ⟨(hracing schedule).problem_eq hproblem,
      (hracing schedule).troubled i (by rw [hproblem]; rfl), (hracing schedule).failed i _ hproblem⟩
  · by_contra hfew
    rw [not_or, not_and, Bool.not_eq_true] at hfew
    have hmany : 3 ≤ n ∨ full.has e.schema.name = false := by
      by_cases hthree : 3 ≤ n
      · exact .inl hthree
      · exact .inr (hfew.2 (by omega))
    obtain ⟨schedule, i, hfailed⟩ := exists_failing hfull (by omega) hmany
    have hend := hall _ (fair_append_rounds e.schema schedule) i
    rw [run_append, run_finished hfailed] at hend
    cases hend
  · intro hfew schedule hfair i
    obtain ⟨problem, hproblem⟩ := fair_finished hfair i
    cases problem with
    | none => exact hproblem
    | some reason =>
      have hlt := winners_lt (i := i) (by rw [hproblem]; simp)
      have hone := (hracing schedule).troubled i (by rw [hproblem]; rfl)
      rcases hfew with hn | ⟨rfl, hfound⟩
      · omega
      · have htwo := (hracing schedule).failed i _ hproblem hfound
        omega

/-- Two callers both succeed, whatever the order of their steps. -/
theorem two_callers_succeed : ∃ full : Database,
    ({} : Database).applyAll (narrow.schema.statements .sqlite) = (full, none) ∧
    ∀ schedule : List (Fin 2), Fair narrow.schema schedule →
      ∀ i, ((begun narrow.schema 2).run narrow.schema schedule).callers i = finished none := by
  have hfull : ({} : Database).applyAll (narrow.schema.statements .sqlite) =
      ((({} : Database).applyAll (narrow.schema.statements .sqlite)).1, none) := by decide +kernel
  have hfound : (({} : Database).applyAll (narrow.schema.statements .sqlite)).1.has
      narrow.schema.name = true := by decide +kernel
  exact ⟨_, hfull, (race_settled 2 hfull).2.1.mpr (.inr ⟨rfl, hfound⟩)⟩

/-- The first caller drops the trigger, the second one makes it; the first one tries again, and the
third one makes it. -/
def overtakings : List (Fin 3) := [0, 0, 1, 1, 1, 0, 0, 0, 0, 2, 2, 2, 0]

theorem third_caller_defeats : narrow.descriptor.Accepted ∧
    (({} : Database).applyAll (narrow.schema.statements .sqlite)).2 = none ∧
    Fair narrow.schema (overtakings ++ rounds narrow.schema 3) ∧
    ((begun narrow.schema 3).run narrow.schema (overtakings ++ rounds narrow.schema 3)).callers 0 =
      finished (some narrow.schema.clashReport) := by
  have hfailed : ((begun narrow.schema 3).run narrow.schema overtakings).callers 0 =
      finished (some narrow.schema.clashReport) := by decide +kernel
  refine ⟨?_, by decide +kernel, fair_append_rounds _ _, ?_⟩
  · unfold Descriptor.Accepted
    rfl
  · rw [run_append, run_finished hfailed]

end Store

end EntityStore
