import EntityStore.Proofs.Actions
import EntityStore.Proofs.Traversal

/-! # The database of a store

A store reaches one database, or none for as long as its link and files stay. A transaction that
succeeds puts the changed database in its place; one that fails changes nothing in it.
-/
namespace EntityStore

namespace Store

open EntityStore.Action

/-- A store whose database is kept in memory. -/
def inMemory : Store := { link := ⟨{ url := some "sqlite://" }, .sqlite⟩ }

/-- The database that the store works on, if it can be opened and read. -/
def database? (s : Store) : Option Database :=
  match s.link.engineTarget s.files with
  | .ok u => (s.databaseAt (s.link.location u)).toOption
  | .error _ => none

/-- The store after an attempt to make its engine. -/
def opened (s : Store) : Store := { s with isOpen := s.isOpen || s.link.canOpen s.files }

/-- The store with a database in place of the one it works on. -/
def stored (s : Store) (db : Database) : Store :=
  match s.link.engineTarget s.files with
  | .ok u => s.opened.putDatabase (s.link.location u) db
  | .error _ => s

section Parts

variable (s : Store) (db : Database)

@[simp] theorem database?_opened : s.opened.database? = s.database? := rfl

theorem stored_disk_memory : ∃ disk memory,
    s.stored db = { s.opened with disk := disk, memory := memory } ∨ s.stored db = s := by
  unfold stored
  split
  · rename_i u _
    unfold putDatabase
    split
    · exact ⟨_, _, .inl rfl⟩
    · exact ⟨_, _, .inl rfl⟩
  · exact ⟨[], {}, .inr rfl⟩

@[simp] theorem link_stored : (s.stored db).link = s.link := by
  obtain ⟨_, _, h | h⟩ := s.stored_disk_memory db <;> simp only [h, opened]

@[simp] theorem files_stored : (s.stored db).files = s.files := by
  obtain ⟨_, _, h | h⟩ := s.stored_disk_memory db <;> simp only [h, opened]

@[simp] theorem paging_stored : (s.stored db).paging = s.paging := by
  obtain ⟨_, _, h | h⟩ := s.stored_disk_memory db <;> simp only [h, opened]

@[simp] theorem clock_stored : (s.stored db).clock = s.clock := by
  obtain ⟨_, _, h | h⟩ := s.stored_disk_memory db <;> simp only [h, opened]

@[simp] theorem applied_stored : (s.stored db).applied = s.applied := by
  obtain ⟨_, _, h | h⟩ := s.stored_disk_memory db <;> simp only [h, opened]

end Parts

theorem databaseAt_putDatabase {s : Store} {place : Link.Location}
    (h : (s.databaseAt place).isOk = true) (after : Database) :
    (s.putDatabase place after).databaseAt place = .ok after := by
  cases place with
  | server =>
    simp [databaseAt, Link.Location.fault?, Except.isOk, Except.toBool] at h
  | memory => rfl
  | file path =>
    cases hf : (Link.Location.file path).fault? s.files with
    | some fault => simp [databaseAt, hf, Except.isOk, Except.toBool] at h
    | none => simp [databaseAt, putDatabase, hf, isForeign]

/-- A database that is reached is where the engine leads. -/
theorem place_of_reached {s : Store} {db : Database} (h : s.database? = some db) :
    ∃ u, s.link.engineTarget s.files = .ok u ∧ s.databaseAt (s.link.location u) = .ok db := by
  unfold database? at h
  split at h
  · rename_i u hu
    exact ⟨u, hu, ok_of_toOption h⟩
  · cases h

theorem database?_stored {s : Store} {db : Database} (h : s.database? = some db)
    (after : Database) : (s.stored after).database? = some after := by
  obtain ⟨u, hu, hd⟩ := place_of_reached h
  have hok : (s.opened.databaseAt (s.link.location u)).isOk = true := by
    change (s.databaseAt (s.link.location u)).isOk = true
    rw [hd]
    rfl
  have hs : s.stored after = s.opened.putDatabase (s.link.location u) after := by
    simp [stored, hu]
  rw [database?, link_stored, files_stored, hu]
  simp only
  rw [hs, databaseAt_putDatabase hok]
  rfl

/-! ## Transactions -/

theorem engine_on (s : Store) :
    engine.on s = match s.link.engineTarget s.files with
      | .ok u => (.ok (s.link.location u), s.opened)
      | .error f => (.error f, s) := by
  unfold engine
  simp only [on_bind, on_get, on_ofExcept, on_set, on_pure]
  cases h : s.link.engineTarget s.files with
  | error f => rfl
  | ok u => simp [opened, Link.canOpen, h]

variable {α : Type} {s : Store} {db : Database} {entity operation : String}
  {run : Database → Except Failure (Database × α)}

theorem opened_of_error {f : Failure} (h : s.link.engineTarget s.files = .error f) :
    s.opened = s := by
  simp [opened, Link.canOpen, h]

/-- A transaction on a database that is reached. -/
theorem transaction_reached (h : s.database? = some db) :
    (transaction entity operation run).on s = match run db with
      | .ok (after, a) => (.ok a, s.stored after)
      | .error f => (.error f, s.opened) := by
  obtain ⟨u, hu, hd⟩ := place_of_reached h
  have hopened : s.opened.databaseAt (s.link.location u) = .ok db := hd
  unfold transaction
  simp only [on_bind, engine_on, hu, on_get, hopened, on_ofExcept]
  cases hr : run db with
  | error f => rfl
  | ok p => simp [stored, hu]

/-- A transaction that reaches no database fails. -/
theorem transaction_unreached (h : s.database? = none) :
    ∃ f, (transaction entity operation run).on s = (.error f, s.opened) := by
  unfold transaction
  cases hu : s.link.engineTarget s.files with
  | error f => exact ⟨f, by simp [engine_on, hu, opened_of_error hu]⟩
  | ok u =>
    cases hd : s.databaseAt (s.link.location u) with
    | ok db => simp [database?, hu, hd, Except.toOption] at h
    | error fault =>
      have hd' : s.opened.databaseAt (s.link.location u) = .error fault := hd
      exact ⟨_, by simp [engine_on, hu, hd']; rfl⟩

end Store

end EntityStore
