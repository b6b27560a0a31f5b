import EntityStore.Proofs.Matching
import EntityStore.Proofs.Sessions

/-! # Moves

A store serves its entities, forgets its marks, and is closed. A database in memory is lost when the
store is closed; any other one is found again.
-/
namespace EntityStore

open Database

/-- What is done with a store: an entity is bound or something is done for one, the marks are taken
away, or the store is closed. -/
inductive Move where
  | bind (e : Registered)
  | deed (e : Registered) (deed : Deed)
  | reset
  | close

namespace Move

def after (s : Store) : Move → Store
  | bind e => ((Store.bind e).on s).2
  | deed e d => d.after e s
  | reset => (Store.reset.on s).2
  | close => (Store.close.on s).2

/-- The entity that a move is made for. -/
def entity? : Move → Option Registered
  | bind e | deed e _ => some e
  | reset | close => none

/-- The store after moves, one after another. -/
def afterAll (moves : List Move) (s : Store) : Store := moves.foldl after s

@[simp] theorem afterAll_nil (s : Store) : afterAll [] s = s := rfl

@[simp] theorem afterAll_cons (m : Move) (rest : List Move) (s : Store) :
    afterAll (m :: rest) s = afterAll rest (m.after s) := rfl

theorem afterAll_concat (moves : List Move) (m : Move) (s : Store) :
    afterAll (moves ++ [m]) s = m.after (afterAll moves s) := by
  simp [afterAll]

end Move

namespace Store

variable {s : Store} {e : Registered}

/-! ## Closing -/

/-- The database of a store lives in memory. -/
def Volatile (s : Store) : Prop :=
  ∃ u, s.link.engineTarget s.files = .ok u ∧ s.link.location u = .memory

theorem after_reset (s : Store) : Move.reset.after s = { s with applied := [] } := rfl

theorem after_close (s : Store) : Move.close.after s = { s with isOpen := false, memory := {} } := rfl

theorem after_bind (e : Registered) (s : Store) : ∃ made bound,
    (Move.bind e).after s = { s with made := made, bound := bound } := by
  unfold Move.after Store.bind
  simp only [Action.on_bind, Action.on_get]
  split
  · split
    · exact ⟨_, _, rfl⟩
    · exact ⟨_, _, rfl⟩
  · exact ⟨_, _, rfl⟩

/-- What was kept in memory is lost. -/
theorem Volatile.database?_close (h : s.Volatile) : (Move.close.after s).database? = some {} := by
  obtain ⟨u, hu, hplace⟩ := h
  simp only [after_close, database?, hu, hplace]
  rfl

/-- What was kept elsewhere is found again. -/
theorem database?_close (h : ¬ s.Volatile) : (Move.close.after s).database? = s.database? := by
  simp only [after_close, database?]
  cases hu : s.link.engineTarget s.files with
  | error f => rfl
  | ok u =>
    cases hplace : s.link.location u with
    | memory => exact absurd ⟨u, hu, hplace⟩ h
    | file path =>
      have hforeign : ({ s with isOpen := false, memory := {} } : Store).isForeign (.file path) =
        s.isForeign (.file path) := rfl
      simp only [hplace, databaseAt, hforeign]
      cases (Link.Location.file path).fault? s.files <;> rfl
    | server =>
      simp only [hplace, databaseAt]
      rfl

theorem matches_close (h : ¬ s.Volatile) : Matches Eq s (Move.close.after s) :=
  matches_same rfl rfl rfl (database?_close h) rfl

/-- A store whose database is kept in a file. -/
def inFile : Store := { link := ⟨{ url := some "sqlite:///t.db" }, .sqlite⟩ }

theorem inFile_lasts : ¬ inFile.Volatile := by
  rintro ⟨u, hu, hplace⟩
  have hlocation : (inFile.link.engineTarget inFile.files).toOption.map inFile.link.location =
    some (.file "t.db") := by decide +kernel
  rw [hu] at hlocation
  cases hplace.symm.trans (Option.some.inj hlocation)

/-! ## Deeds -/

section Deeds

variable {R : Database → Database → Prop}

theorem matches_waited (s : Store) (micros : ℕ) : Matches Eq s (s.waited micros) := by
  rw [waited_eq]
  exact matches_clock s _

/-- What applications of the statements of a table and writings of its rows do to a database, one
after another, a deed for its entity does. -/
theorem deed_matches (hrefl : ∀ db, R db db)
    (htrans : ∀ db mid after, R db mid → R mid after → R db after)
    (happly : s.isApplied e = false → ∀ db, R db (db.applyAll (e.schema.statements .sqlite)).1)
    (hrows : ∀ db rows, R db (db.rewritten e.schema.denotedName rows)) (deed : Deed) :
    Matches R s (deed.after e s) ∧
      ((deed.after e s).applied = s.applied ∨ (deed.after e s).applied = e.place :: s.applied) := by
  cases deed with
  | ensure => exact ensure_matches hrefl happly
  | call step =>
    have hwaited : (s.waited step.pause).applied = s.applied := by
      rw [waited_eq]
    obtain ⟨hmatch, happlied⟩ := @perform_matches R (s.waited step.pause) e hrefl htrans
      (by rwa [isApplied, hwaited]) hrows step.call
    rw [hwaited] at happlied
    refine ⟨(matches_waited s step.pause).trans hmatch ?_, happlied⟩
    rintro db _ after rfl hafter
    exact hafter

end Deeds

/-- No move changes what a store is linked to. -/
theorem volatile_after (m : Move) : (m.after s).Volatile ↔ s.Volatile := by
  have hcongr : ∀ {t : Store}, s.link = t.link → s.files = t.files → (t.Volatile ↔ s.Volatile) := by
    intro t hlink hfiles
    rw [Volatile, Volatile, hlink, hfiles]
  cases m with
  | bind e =>
    obtain ⟨_, _, h⟩ := after_bind e s
    rw [h]
    exact hcongr rfl rfl
  | deed e deed =>
    have hmatch := (deed_matches (e := e) (s := s) (R := fun _ _ => True) (fun _ => trivial)
      (fun _ _ _ _ _ => trivial) (fun _ _ => trivial) (fun _ _ => trivial) deed).1
    exact hcongr hmatch.link hmatch.files
  | reset => exact hcongr rfl rfl
  | close => exact hcongr rfl rfl

end Store

end EntityStore
