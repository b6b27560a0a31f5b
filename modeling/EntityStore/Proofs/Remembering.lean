import EntityStore.Proofs.Missing
import EntityStore.Proofs.Moves

/-! # What a store remembers

The marks of what was applied are kept apart from the database. A database in memory is lost when the
store is closed, and the marks are not: from then on entities that are marked have no tables, and
calls for them fail. For all other databases, and where nothing is marked when the store is closed,
every marked entity has its table whatever is done.
-/
namespace EntityStore

open Database

namespace Store

variable {s : Store} {e : Registered} {entities : List Registered} {moves : List Move}
  {reg : Registry}

/-- Every entity that counts as applied has its table in the database. -/
def Remembers (entities : List Registered) (s : Store) : Prop :=
  ∀ x ∈ entities, s.isApplied x = true → (s.table? x.schema).isSome = true

/-- What holds of the marks and the tables whatever is done for some entities. -/
structure Marking (entities : List Registered) (s : Store) : Prop where
  separate : Separate s.schemas
  marked : ∀ p ∈ s.applied, ∃ x ∈ entities, x.place = p

/-- The marks are those of the entities that something is done for. -/
theorem Marking.after (h : Marking entities s) {m : Move} (hm : ∀ x ∈ m.entity?, x ∈ entities) :
    Marking entities (m.after s) := by
  cases m with
  | bind e =>
    obtain ⟨_, _, hbind⟩ := after_bind e s
    rw [hbind]
    exact ⟨h.separate, h.marked⟩
  | deed e deed =>
    have hw : Widens e s (deed.after e s) := widens_deed h.separate deed
    refine ⟨hw.schemas.separate h.separate, ?_⟩
    intro p hp
    rcases hw.marked p hp with hp | rfl
    · exact h.marked p hp
    · exact ⟨e, hm e rfl, rfl⟩
  | reset => exact ⟨h.separate, by simp [after_reset]⟩
  | close =>
    refine ⟨?_, h.marked⟩
    by_cases hs : s.Volatile
    · rw [schemas, hs.database?_close]
      exact List.Pairwise.nil
    · rw [schemas, database?_close hs]
      exact h.separate

/-- A move keeps the tables of marked entities, unless it closes a store in memory that has marks. -/
theorem Remembers.after (h : Remembers entities s) (hk : Marking entities s)
    (hreg : ∀ x ∈ entities, reg.Holds x) {m : Move} (hm : ∀ x ∈ m.entity?, x ∈ entities)
    (hclose : s.Volatile → m = .close → s.applied = []) : Remembers entities (m.after s) := by
  cases m with
  | bind e =>
    obtain ⟨_, _, hbind⟩ := after_bind e s
    rw [hbind]
    exact h
  | deed e deed =>
    have hw : Widens e s (deed.after e s) := widens_deed hk.separate deed
    intro x hx hmarked
    have happlied : (deed.after e s).isApplied x = true := hmarked
    rcases hw.marked x.place (by simpa [isApplied] using happlied) with hp | hp
    · exact hw.table (h x hx (by simpa [isApplied] using hp))
    · -- the mark is that of the deed, and one place is that of one descriptor
      have hschema : x.schema = e.schema :=
        congrArg TableSchema.ofDescriptor ((hreg x hx).descriptor_eq (hreg e (hm e rfl)) hp)
      rw [hschema]
      rcases hw.made (by simpa [isApplied, hp] using happlied) with hs | hthere
      · exact hw.table (hschema ▸ h x hx (by simpa [isApplied, hp] using hs))
      · exact hthere
  | reset =>
    intro x _ happlied
    cases happlied
  | close =>
    by_cases hs : s.Volatile
    · intro x _ happlied
      have hempty : s.isApplied x = true := happlied
      rw [isApplied, hclose hs rfl] at hempty
      cases hempty
    · intro x hx happlied
      rw [table?, database?_close hs]
      exact h x hx happlied

end Store

namespace Move

/-- Whenever the store is closed, nothing is marked. -/
def ClosesUnmarked (moves : List Move) (s : Store) : Prop :=
  ∀ earlier later, moves = earlier ++ .close :: later → (afterAll earlier s).applied = []

theorem ClosesUnmarked.cons {m : Move} {rest : List Move} {s : Store}
    (h : ClosesUnmarked (m :: rest) s) :
    (m = .close → s.applied = []) ∧ ClosesUnmarked rest (m.after s) := by
  constructor
  · rintro rfl
    exact h [] rest rfl
  · rintro earlier later rfl
    exact h (m :: earlier) later rfl

theorem ClosesUnmarked.left {earlier later : List Move} {s : Store}
    (h : ClosesUnmarked (earlier ++ later) s) : ClosesUnmarked earlier s := by
  rintro before after rfl
  exact h before (after ++ later) (by simp)

end Move

namespace Store

variable {s : Store} {entities : List Registered} {moves : List Move} {reg : Registry}

theorem Marking.afterAll (h : Marking entities s)
    (hmoves : ∀ m ∈ moves, ∀ x ∈ m.entity?, x ∈ entities) :
    Marking entities (Move.afterAll moves s) := by
  induction moves generalizing s with
  | nil => exact h
  | cons m rest ih =>
    exact ih (h.after (hmoves m (List.mem_cons_self ..)))
      fun m' hm' => hmoves m' (List.mem_cons_of_mem _ hm')

theorem Remembers.afterAll (h : Remembers entities s) (hk : Marking entities s)
    (hreg : ∀ x ∈ entities, reg.Holds x) (hmoves : ∀ m ∈ moves, ∀ x ∈ m.entity?, x ∈ entities)
    (hclose : s.Volatile → Move.ClosesUnmarked moves s) :
    Remembers entities (Move.afterAll moves s) := by
  induction moves generalizing s with
  | nil => exact h
  | cons m rest ih =>
    have hm := hmoves m (List.mem_cons_self ..)
    refine ih (h.after hk hreg hm fun hs => (hclose hs).cons.1) (hk.after hm)
      (fun m' hm' => hmoves m' (List.mem_cons_of_mem _ hm')) fun hs => ?_
    exact (hclose ((volatile_after m).mp hs)).cons.2

theorem volatile_afterAll : (Move.afterAll moves s).Volatile ↔ s.Volatile := by
  induction moves generalizing s with
  | nil => rfl
  | cons m rest ih => exact ih.trans (volatile_after m)

/-- An entity that is marked when a store in memory is closed has no table afterwards. -/
theorem Volatile.forgets (hs : s.Volatile) {x : Registered} (hx : s.isApplied x = true) :
    (Move.close.after s).isApplied x = true ∧ (Move.close.after s).table? x.schema = none := by
  refine ⟨hx, ?_⟩
  rw [table?, hs.database?_close]
  rfl

/-- On a store that begins without marks, at any point of any moves every marked entity has its table,
and no call tells of a missing one, exactly if a database in memory is never closed while something is
marked. -/
theorem remembers_iff (hseparate : Separate s.schemas) (hunmarked : s.applied = [])
    (hreg : ∀ x ∈ entities, reg.Holds x) (hmoves : ∀ m ∈ moves, ∀ x ∈ m.entity?, x ∈ entities) :
    ((∀ earlier later, moves = earlier ++ later → Remembers entities (Move.afterAll earlier s)) ↔
      (s.Volatile → Move.ClosesUnmarked moves s)) ∧
    ((∀ earlier later, moves = earlier ++ later → ∀ x ∈ entities, ∀ call : Call,
        FindsTable ((call.perform x).on (Move.afterAll earlier s)).1) ↔
      (s.Volatile → Move.ClosesUnmarked moves s)) := by
  have hmarking : Marking entities s := ⟨hseparate, by simp [hunmarked]⟩
  have hsound : (s.Volatile → Move.ClosesUnmarked moves s) →
      ∀ earlier later, moves = earlier ++ later → Remembers entities (Move.afterAll earlier s) := by
    rintro hclose earlier later rfl
    have hnone : Remembers entities s := by
      intro x _ happlied
      rw [isApplied, hunmarked] at happlied
      cases happlied
    exact hnone.afterAll hmarking hreg (fun m hm => hmoves m (List.mem_append_left _ hm))
      fun hs => (hclose hs).left
  -- a mark that stands when the store is closed is one of the entities, whose table is lost then
  have hlost : ∀ earlier later, moves = earlier ++ .close :: later → s.Volatile →
      (Move.afterAll earlier s).applied ≠ [] → ∃ x ∈ entities,
        (Move.afterAll (earlier ++ [.close]) s).database? = some {} ∧
        (Move.afterAll (earlier ++ [.close]) s).isApplied x = true ∧
        (Move.afterAll (earlier ++ [.close]) s).table? x.schema = none := by
    rintro earlier later rfl hs hmarks
    obtain ⟨p, hp⟩ := List.exists_mem_of_ne_nil _ hmarks
    have hearlier := hmarking.afterAll fun m hm => hmoves m (List.mem_append_left _ hm)
    obtain ⟨x, hx, hplace⟩ := hearlier.marked p hp
    have hvolatile : (Move.afterAll earlier s).Volatile := volatile_afterAll.mpr hs
    rw [Move.afterAll_concat]
    exact ⟨x, hx, hvolatile.database?_close,
      hvolatile.forgets (by simpa [isApplied, hplace] using hp)⟩
  refine ⟨⟨?_, hsound⟩, ⟨?_, ?_⟩⟩
  · rintro hall hs earlier later rfl
    by_contra hmarks
    obtain ⟨x, hx, -, happlied, hnone⟩ := hlost earlier later rfl hs hmarks
    have hthere := hall (earlier ++ [.close]) later (by simp) x hx happlied
    rw [hnone] at hthere
    cases hthere
  · rintro hall hs earlier later rfl
    by_contra hmarks
    obtain ⟨x, hx, hdb, happlied, hnone⟩ := hlost earlier later rfl hs hmarks
    have hthere := (findsTable_iff hdb).mp (hall (earlier ++ [.close]) later (by simp) x hx) happlied
    rw [hnone] at hthere
    cases hthere
  · intro hclose earlier later hsplit x hx call
    exact findsTable_perform (hsound hclose earlier later hsplit x hx) call

/-- An entity is served, then the store is closed. -/
def servedThenClosed : List Move := [.bind narrow, .deed narrow .ensure, .close]

/-- Closing a store over a file loses no table. -/
theorem inFile_remembers : Separate inFile.schemas ∧
    (∀ x ∈ [narrow], Registry.Holds ⟨[narrow.descriptor]⟩ x) ∧
    (∀ m ∈ servedThenClosed, ∀ x ∈ m.entity?, x ∈ [narrow]) ∧
    (Move.afterAll servedThenClosed inFile).isApplied narrow = true ∧
    Remembers [narrow] (Move.afterAll servedThenClosed inFile) := by
  have hseparate : Separate inFile.schemas := by
    have hschemas : inFile.schemas = [] := by decide +kernel
    rw [hschemas]
    exact List.Pairwise.nil
  have hreg : ∀ x ∈ [narrow], Registry.Holds ⟨[narrow.descriptor]⟩ x := by
    simp [Registry.Holds, narrow]
  have hmoves : ∀ m ∈ servedThenClosed, ∀ x ∈ m.entity?, x ∈ [narrow] := by
    simp [servedThenClosed, Move.entity?]
  exact ⟨hseparate, hreg, hmoves, by decide +kernel,
    (remembers_iff hseparate rfl hreg hmoves).1.mpr (fun hs => absurd hs inFile_lasts) _ [] (by simp)⟩

/-- A store in memory that was closed believes in a table that is lost, and a count fails for that. -/
theorem inMemory_forgets : narrow.descriptor.Accepted ∧
    (Move.afterAll servedThenClosed inMemory).isApplied narrow = true ∧
    (Move.afterAll servedThenClosed inMemory).table? narrow.schema = none ∧
    ((Call.perform narrow (.count .null)).on (Move.afterAll servedThenClosed inMemory)).1 =
      .error ((noSuchTable "t").failure "t" "count") := by
  have hmarked : (Move.afterAll servedThenClosed inMemory).isApplied narrow = true := by
    decide +kernel
  have hdatabase : (Move.afterAll servedThenClosed inMemory).database? = some {} := by decide +kernel
  have hname : narrow.schema.denotedName = "t" := by decide +kernel
  refine ⟨?_, hmarked, by decide +kernel, ?_⟩
  · unfold Descriptor.Accepted
    rfl
  · have hcount := count_missing hmarked hdatabase (by rw [hname]; rfl)
    rw [hname] at hcount
    exact hcount

end Store

end EntityStore
