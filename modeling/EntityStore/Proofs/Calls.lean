import EntityStore.Proofs.Finding

/-! # Runs of calls

What the callers of an entity do, one call after another with time passing before each. A call that
fails is part of the run, and so is what it left behind.
-/
namespace EntityStore

/-- A call for the records of an entity, with whatever it is given. -/
inductive Call where
  | create (data : Value)
  | update (id data : Value)
  | delete (id : Value)
  | get (request : PageRequest)
  | getById (id : Value)
  | count (filters : Value)

inductive Answer where
  | created (r : Record)
  | updated (r : Option Record)
  | deleted (wasThere : Bool)
  | page (p : Page)
  | found (r : Option Record)
  | counted (n : Nat)

/-- Whether an answer tells that records have changed. -/
def Answer.isChange : Answer → Bool
  | created _ => true
  | updated r => r.isSome
  | deleted wasThere => wasThere
  | _ => false

def Call.perform (e : Registered) : Call → Action Answer
  | create data => .created <$> Store.create e data
  | update id data => .updated <$> Store.update e id data
  | delete id => .deleted <$> Store.delete e id
  | get request => .page <$> Store.get e request
  | getById id => .found <$> Store.getById e id
  | count filters => .counted <$> Store.count e filters

/-- A call after some microseconds. -/
structure Step where
  pause : Nat
  call : Call

/-- The store some microseconds later; at the end of the calendar time stands still. -/
def Store.waited (s : Store) (micros : Nat) : Store := ((Store.advance micros).on s).2

def Step.run (e : Registered) (step : Step) (s : Store) : Except Failure Answer × Store :=
  (step.call.perform e).on (s.waited step.pause)

/-- What a caller sees of a run: the calls and their outcomes. -/
abbrev History := List (Call × Except Failure Answer)

/-- The outcomes of some steps, and the store after them. -/
def run (e : Registered) : List Step → Store → History × Store
  | [], s => ([], s)
  | step :: rest, s =>
    let (outcome, after) := step.run e s
    let (later, last) := run e rest after
    ((step.call, outcome) :: later, last)

/-- What every step preserves holds after any run. -/
theorem run_induction {e : Registered} {P : Store → Prop}
    (hstep : ∀ s, P s → ∀ step, P (Step.run e step s).2) {s : Store} (hs : P s)
    (steps : List Step) : P (run e steps s).2 := by
  induction steps generalizing s with
  | nil => exact hs
  | cons step rest ih => exact ih (hstep s hs step)

namespace Store

variable {e : Registered} {s s' : Store}

/-- Nothing was done for an entity yet: its table is not there. -/
structure Fresh (e : Registered) (s : Store) : Prop where
  table : s.table? e.schema = none
  applied : s.isApplied e = false

theorem Fresh.rows (h : Fresh e s) : s.rows e.schema = [] := by
  rw [Store.rows, h.table]
  rfl

theorem Fresh.tabled (h : Fresh e s) : s.Tabled e.schema := by
  intro tbl ht
  rw [h.table] at ht
  cases ht

theorem Fresh.fitted (h : Fresh e s) : s.Fitted e.schema := by
  rw [Fitted, h.rows]
  simp

/-- A database in memory has no tables at first. -/
theorem fresh_inMemory (e : Registered) : Fresh e inMemory := by
  have hd : inMemory.database? = some {} := by decide +kernel
  refine ⟨?_, rfl⟩
  rw [Store.table?, hd]
  rfl

theorem quiet_waited (e : Registered) (s : Store) (micros : ℕ) : Quiet e s (s.waited micros) := by
  unfold waited advance
  simp only [Action.on_bind, Action.on_get, Action.on_ofExcept]
  cases hc : s.clock.advance micros with
  | error f => exact .refl e s
  | ok c =>
    obtain ⟨ht, ho, hi⟩ := Clock.advance_spec hc
    exact quiet_clock ⟨ht, fun _ => ho, fun _ => by omega⟩

/-- What a call does: it writes what its answer tells, or it changes no row. -/
inductive Effect (e : Registered) (s s' : Store) : Call → Except Failure Answer → Prop where
  | failed (call : Call) (f : Failure) (quiet : Quiet e s s') : Effect e s s' call (.error f)
  | unchanged (call : Call) (answer : Answer) (quiet : Quiet e s s')
    (silent : answer.isChange = false) : Effect e s s' call (.ok answer)
  | created {data : Value} {record : Record} (row : Created e data s s' record) :
    Effect e s s' (.create data) (.ok (.created record))
  | updated {id data : Value} {k : String} {record : Record} (text : id.idText? = some k)
    (row : Updated e k data s s' record) :
    Effect e s s' (.update id data) (.ok (.updated (some record)))
  | deleted {id : Value} {k : String} {wasThere : Bool} (text : id.idText? = some k)
    (row : Deleted e k s s' wasThere) : Effect e s s' (.delete id) (.ok (.deleted wasThere))

theorem perform_effect {call : Call} {r : Except Failure Answer} (hs : s.Tabled e.schema)
    (hw : s.Fitted e.schema) (h : (call.perform e).on s = (r, s')) : Effect e s s' call r := by
  -- reading answers no change
  have hread : ∀ {x : Except Failure Answer}, Quiet e s s' →
      (∀ answer, x = .ok answer → answer.isChange = false) → Effect e s s' call x := by
    intro x hq hx
    cases x with
    | error f => exact .failed _ f hq
    | ok answer => exact .unchanged _ _ hq (hx answer rfl)
  cases call with
  | create data =>
    obtain ⟨x, hx, rfl⟩ := Action.on_map_eq h
    rcases create_spec hs hx with ⟨⟨f, rfl⟩, hq⟩ | ⟨record, rfl, hc⟩
    · exact .failed _ f hq
    · exact .created hc
  | update id data =>
    obtain ⟨x, hx, rfl⟩ := Action.on_map_eq h
    rcases update_spec hs hw hx with ⟨⟨f, rfl⟩, hq⟩ | ⟨rfl, hq, -⟩ | ⟨k, record, hk, rfl, hc⟩
    · exact .failed _ f hq
    · exact .unchanged _ _ hq rfl
    · exact .updated hk hc
  | delete id =>
    obtain ⟨x, hx, rfl⟩ := Action.on_map_eq h
    rcases delete_spec hx with ⟨⟨f, rfl⟩, hq⟩ | ⟨rfl, hq, -⟩ | ⟨k, b, hk, rfl, hc⟩
    · exact .failed _ f hq
    · exact .unchanged _ _ hq rfl
    · exact .deleted hk hc
  | get request =>
    obtain ⟨x, hx, rfl⟩ := Action.on_map_eq h
    refine hread (get_spec hs hw hx).1 ?_
    cases x <;> rintro answer ⟨⟩
    rfl
  | getById id =>
    obtain ⟨x, hx, rfl⟩ := Action.on_map_eq h
    refine hread (quiet_getById hs hw hx) ?_
    cases x <;> rintro answer ⟨⟩
    rfl
  | count filters =>
    obtain ⟨x, hx, rfl⟩ := Action.on_map_eq h
    refine hread (count_spec hx).1 ?_
    cases x <;> rintro answer ⟨⟩
    rfl

/-! ## What runs keep -/

/-- A property of a store that lasts whatever is done for an entity: nothing that leaves the rows
alone takes it away, and no row that is written or removed. -/
structure Lasting (e : Registered) (P : Store → Prop) : Prop where
  tabled : ∀ {s}, P s → s.Tabled e.schema
  fitted : ∀ {s}, P s → s.Fitted e.schema
  quiet : ∀ {s s'}, P s → Quiet e s s' → P s'
  created : ∀ {s s' data record}, P s → Created e data s s' record → P s'
  updated : ∀ {s s' k data record}, P s → Updated e k data s s' record → P s'
  deleted : ∀ {s s' k wasThere}, P s → Deleted e k s s' wasThere → P s'

namespace Lasting

variable {P : Store → Prop}

theorem effect (h : Lasting e P) (hs : P s) {call : Call} {r : Except Failure Answer}
    (hc : Effect e s s' call r) : P s' := by
  cases hc with
  | failed call f hq => exact h.quiet hs hq
  | unchanged call answer hq _ => exact h.quiet hs hq
  | created hrow => exact h.created hs hrow
  | updated _ hrow => exact h.updated hs hrow
  | deleted _ hrow => exact h.deleted hs hrow

theorem waited (h : Lasting e P) (hs : P s) (micros : ℕ) : P (s.waited micros) :=
  h.quiet hs (quiet_waited e s micros)

theorem run (h : Lasting e P) (hs : P s) (steps : List Step) : P (EntityStore.run e steps s).2 := by
  refine run_induction ?_ hs steps
  intro s hs step
  have hw := h.waited hs step.pause
  exact h.effect hw (perform_effect (h.tabled hw) (h.fitted hw) rfl)

end Lasting

end Store

end EntityStore
