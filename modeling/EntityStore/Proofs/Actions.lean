import EntityStore.Store.Basic

/-! # Actions as functions

An action is a function from stores to answers and stores. What each step of an action does is said
once, so an action is unfolded by rewriting.
-/
namespace EntityStore

namespace Action

variable {α β : Type}

/-- The answer of an action on a store, and the store after it. -/
def on (a : Action α) (s : Store) : Except Failure α × Store := a.run s

@[simp] theorem on_pure (x : α) (s : Store) : (pure x : Action α).on s = (.ok x, s) := rfl

@[simp] theorem on_throw (f : Failure) (s : Store) :
    (throw f : Action α).on s = (.error f, s) := rfl

@[simp] theorem on_get (s : Store) : (get : Action Store).on s = (.ok s, s) := rfl

@[simp] theorem on_set (s t : Store) : (set t : Action Unit).on s = (.ok (), t) := rfl

@[simp] theorem on_modify (f : Store → Store) (s : Store) :
    (modify f : Action Unit).on s = (.ok (), f s) := rfl

@[simp] theorem on_ofExcept (r : Except Failure α) (s : Store) : (ofExcept r).on s = (r, s) := by
  cases r <;> rfl

@[simp] theorem on_bind (a : Action α) (f : α → Action β) (s : Store) :
    (a >>= f).on s = match a.on s with
      | (.ok x, t) => (f x).on t
      | (.error e, t) => (.error e, t) := by
  change ExceptT.run (a >>= f) s = _
  rw [ExceptT.run_bind]
  unfold on
  simp only [bind, StateT.bind]
  rcases ExceptT.run a s with ⟨r, t⟩
  cases r <;> rfl

theorem on_bind_ok {a : Action α} {f : α → Action β} {s t : Store} {x : α}
    (h : a.on s = (.ok x, t)) : (a >>= f).on s = (f x).on t := by
  rw [on_bind, h]

theorem on_bind_error {a : Action α} {f : α → Action β} {s t : Store} {e : Failure}
    (h : a.on s = (.error e, t)) : (a >>= f).on s = (.error e, t) := by
  rw [on_bind, h]

theorem on_map (f : α → β) (a : Action α) (s : Store) :
    (f <$> a).on s = ((a.on s).1.map f, (a.on s).2) := by
  rw [map_eq_pure_bind, on_bind]
  rcases a.on s with ⟨_ | _, _⟩ <;> rfl

theorem on_map_eq {f : α → β} {a : Action α} {s t : Store} {r : Except Failure β}
    (h : (f <$> a).on s = (r, t)) : ∃ x, a.on s = (x, t) ∧ r = x.map f := by
  rw [on_map] at h
  cases h
  exact ⟨_, rfl, rfl⟩

theorem exists_of_isOk {a : Action α} {s : Store} (h : (a.on s).1.isOk = true) :
    ∃ x t, a.on s = (.ok x, t) := by
  rcases ha : a.on s with ⟨e | x, t⟩
  · rw [ha] at h
    cases h
  · exact ⟨x, t, rfl⟩

/-- A check that fails ends an action where it stands. -/
theorem check_cases {a : Except Failure α} {f : α → Action β} {s t : Store} {r : Except Failure β}
    (h : (ofExcept a >>= f).on s = (r, t)) :
    (∃ e, r = .error e) ∧ t = s ∨ ∃ x, a = .ok x ∧ (f x).on s = (r, t) := by
  rw [on_bind, on_ofExcept] at h
  cases a with
  | error e =>
    cases h
    exact .inl ⟨⟨e, rfl⟩, rfl⟩
  | ok x => exact .inr ⟨x, rfl, h⟩

end Action

end EntityStore
