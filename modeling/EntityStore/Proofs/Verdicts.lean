import Mathlib.Logic.Basic
import Mathlib.Tactic.ByContra
import Mathlib.Tactic.SplitIfs
import Mathlib.Tactic.Tauto
import EntityStore.Database.Fault

/-! # Verdicts

The word that a fault with a state code is told under, and what the text of its message has to do with it.
Databases put stored values into their messages, so a message can hold any phrase.
-/

namespace EntityStore

namespace Database

/-- What is looked for in a message. -/
inductive Mark where
  | repeated
  | locked
  | unreachable
  deriving DecidableEq, Repr

namespace Mark

def isBorne (message : String) : Mark → Bool
  | repeated => occursIn uniqueMarker message
  | locked => occursIn "database is locked" message
  | unreachable => namesConnection message

/-- A message with one mark and no other. -/
def sample : Mark → String
  | repeated => uniqueMarker
  | locked => "database is locked"
  | unreachable => "could not connect"

theorem isBorne_sample (mark other : Mark) : other.isBorne mark.sample = decide (other = mark) := by
  cases mark <;> cases other <;> decide +kernel

theorem isBorne_empty (mark : Mark) : mark.isBorne "" = false := by
  cases mark <;> decide +kernel

end Mark

namespace Fault

/-- The word under which a fault with a state code is told. -/
def verdict (entity operation : String) (cls : FaultClass) (state : String) (lost : Bool)
    (message : String) : Option String :=
  (failure entity operation (.driver cls message (some state) lost)).word?

variable {entity operation entity' operation' : String} {cls : FaultClass} {state : String} {lost : Bool}
  {m m' : String}

/-! ## The questions -/

def Repeats (cls : FaultClass) (state message : String) : Prop :=
  cls = .integrity ∧ (state = uniqueState ∨ Mark.repeated.isBorne message)

def Stops (state message : String) : Prop :=
  state = canceledState ∨ Mark.locked.isBorne message

/-- A loss of the connection that is known before the message is looked at. -/
def Severed (cls : FaultClass) (state : String) (lost : Bool) : Prop :=
  lost ∨ cls = .interface ∨ cls = .operational ∧ connectionStates.isPrefixOf state

def Departs (cls : FaultClass) (state : String) (lost : Bool) (message : String) : Prop :=
  Severed cls state lost ∨ cls = .operational ∧ Mark.unreachable.isBorne message

instance : Decidable (Repeats cls state m) :=
  inferInstanceAs (Decidable (_ ∧ _))

instance : Decidable (Stops state m) :=
  inferInstanceAs (Decidable (_ ∨ _))

instance : Decidable (Severed cls state lost) :=
  inferInstanceAs (Decidable (_ ∨ _))

instance : Decidable (Departs cls state lost m) :=
  inferInstanceAs (Decidable (_ ∨ _))

theorem isConnectionLoss_iff :
    isConnectionLoss cls m (some state) lost = true ↔ Departs cls state lost m := by
  simp only [isConnectionLoss, Departs, Severed, Mark.isBorne]
  by_cases hlost : lost = true ∨ cls = .interface
  · rw [if_pos hlost]
    exact ⟨fun _ => .inl (by tauto), fun _ => rfl⟩
  · rw [if_neg hlost]
    by_cases hcls : cls = .operational
    · rw [if_neg (not_not.mpr hcls)]
      simp only [Option.any_some, Bool.or_eq_true]
      tauto
    · rw [if_pos hcls]
      constructor
      · intro h
        cases h
      · tauto

/-- The questions in their order. -/
theorem verdict_eq : verdict entity operation cls state lost m = some
    (if Repeats cls state m then "UniqueViolationError"
      else if Stops state m then "StorageTimeoutError"
      else if Departs cls state lost m then "ConnectionError"
      else "StorageError") := by
  simp only [verdict, failure, isConnectionLoss_iff, Option.some.injEq]
  by_cases hr : Repeats cls state m
  · have hr' : cls = .integrity ∧ (state = uniqueState ∨ occursIn uniqueMarker m) := hr
    rw [if_pos hr, if_pos hr']
    rfl
  have hr' : ¬ (cls = .integrity ∧ (state = uniqueState ∨ occursIn uniqueMarker m)) := hr
  rw [if_neg hr, if_neg hr']
  by_cases hs : Stops state m
  · have hs' : state = canceledState ∨ occursIn "database is locked" m := hs
    rw [if_pos hs, if_pos hs']
    rfl
  have hs' : ¬ (state = canceledState ∨ occursIn "database is locked" m) := hs
  rw [if_neg hs, if_neg hs']
  split_ifs <;> rfl

/-! ## Marks with a say -/

/-- The marks that a fault is looked through for, given all that is known but for its message. -/
def Open (cls : FaultClass) (state : String) (lost : Bool) : Mark → Prop
  | .repeated => cls = .integrity ∧ state ≠ uniqueState
  | .locked => ¬ (cls = .integrity ∧ state = uniqueState) ∧ state ≠ canceledState
  | .unreachable => cls = .operational ∧ state ≠ canceledState ∧ ¬ Severed cls state lost

/-- Messages that agree on the open marks are told alike. -/
theorem verdict_congr (h : ∀ mark, Open cls state lost mark → mark.isBorne m = mark.isBorne m') :
    verdict entity operation cls state lost m = verdict entity' operation' cls state lost m' := by
  have hrepeats : Repeats cls state m ↔ Repeats cls state m' := by
    refine and_congr_right fun hcls => or_congr_right' fun hstate => ?_
    rw [h .repeated ⟨hcls, hstate⟩]
  rw [verdict_eq, verdict_eq, if_congr hrepeats rfl rfl]
  by_cases hr : Repeats cls state m'
  · rw [if_pos hr, if_pos hr]
  have hkey : ¬ (cls = .integrity ∧ state = uniqueState) := fun hk => hr ⟨hk.1, .inl hk.2⟩
  have hstops : Stops state m ↔ Stops state m' := by
    refine or_congr_right' fun hstate => ?_
    rw [h .locked ⟨hkey, hstate⟩]
  rw [if_neg hr, if_neg hr, if_congr hstops rfl rfl]
  by_cases hs : Stops state m'
  · rw [if_pos hs, if_pos hs]
  have hdeparts : Departs cls state lost m ↔ Departs cls state lost m' := by
    refine or_congr_right' fun hsevered => and_congr_right fun hcls => ?_
    rw [h .unreachable ⟨hcls, fun hk => hs (.inl hk), hsevered⟩]
  rw [if_neg hs, if_neg hs, if_congr hdeparts rfl rfl]

/-- A message with an open mark is told otherwise than one with no mark. -/
theorem verdict_sample {mark : Mark} (h : Open cls state lost mark) :
    verdict entity operation cls state lost mark.sample ≠
      verdict entity operation cls state lost "" := by
  rw [verdict_eq, verdict_eq]
  cases mark with
  | repeated =>
    obtain ⟨hcls, hstate⟩ := h
    have hsample : Repeats cls state (Mark.sample .repeated) :=
      ⟨hcls, .inr (by simp [Mark.isBorne_sample])⟩
    have hempty : ¬ Repeats cls state "" := by
      simp [Repeats, hstate, Mark.isBorne_empty]
    rw [if_pos hsample, if_neg hempty]
    split_ifs <;> decide
  | locked =>
    obtain ⟨hkey, hstate⟩ := h
    have hrepeats : ∀ m, Mark.repeated.isBorne m = false → ¬ Repeats cls state m := by
      rintro m hm ⟨hcls, hs | hs⟩
      · exact hkey ⟨hcls, hs⟩
      · rw [hm] at hs
        cases hs
    have hsample : Stops state (Mark.sample .locked) := .inr (by simp [Mark.isBorne_sample])
    have hempty : ¬ Stops state "" := by simp [Stops, hstate, Mark.isBorne_empty]
    rw [if_neg (hrepeats _ (by simp [Mark.isBorne_sample])), if_pos hsample,
      if_neg (hrepeats _ (Mark.isBorne_empty _)), if_neg hempty]
    split_ifs <;> decide
  | unreachable =>
    obtain ⟨rfl, hstate, hsevered⟩ := h
    have hrepeats : ∀ m, ¬ Repeats .operational state m := by
      rintro m ⟨h, -⟩
      cases h
    have hstops : ∀ m, Mark.locked.isBorne m = false → ¬ Stops state m := by
      intro m hm
      simp [Stops, hstate, hm]
    have hsample : Departs .operational state lost (Mark.sample .unreachable) :=
      .inr ⟨rfl, by simp [Mark.isBorne_sample]⟩
    have hempty : ¬ Departs .operational state lost "" := by
      simp [Departs, hsevered, Mark.isBorne_empty]
    rw [if_neg (hrepeats _), if_neg (hstops _ (by simp [Mark.isBorne_sample])), if_pos hsample,
      if_neg (hrepeats _), if_neg (hstops _ (Mark.isBorne_empty _)), if_neg hempty]
    decide

/-- A mark is open exactly if it can decide by itself how a fault is told. -/
theorem open_iff {mark : Mark} : Open cls state lost mark ↔ ∃ m m',
    (∀ other, other ≠ mark → other.isBorne m = other.isBorne m') ∧
      verdict entity operation cls state lost m ≠ verdict entity operation cls state lost m' := by
  constructor
  · intro h
    refine ⟨mark.sample, "", ?_, verdict_sample h⟩
    intro other hne
    rw [Mark.isBorne_sample, Mark.isBorne_empty, decide_eq_false hne]
  · rintro ⟨m, m', hagree, hne⟩
    by_contra hclosed
    refine hne (verdict_congr ?_)
    intro other hopen
    by_cases heq : other = mark
    · exact absurd (heq ▸ hopen) hclosed
    · exact hagree other heq

theorem forall_not_open_iff (lost : Bool) : (∀ mark, ¬ Open cls state lost mark) ↔
    cls = .integrity ∧ state = uniqueState ∨ cls ≠ .integrity ∧ state = canceledState := by
  constructor
  · intro h
    have hrepeated := h .repeated
    have hlocked := h .locked
    simp only [Open] at hrepeated hlocked
    tauto
  · rintro (⟨rfl, rfl⟩ | ⟨hcls, rfl⟩) mark <;> cases mark <;> simp_all [Open]

theorem verdict_eq_uniqueViolation_iff :
    verdict entity operation cls state lost m = some "UniqueViolationError" ↔ Repeats cls state m := by
  rw [verdict_eq]
  split_ifs with hr <;> simp [hr]

/-- The text of a message decides nothing exactly for the faults with no open mark. -/
theorem verdict_steered_iff (cls : FaultClass) (state : String) (lost : Bool) :
    (∀ entity operation entity' operation' m m',
      (∀ mark, Open cls state lost mark → mark.isBorne m = mark.isBorne m') →
        verdict entity operation cls state lost m = verdict entity' operation' cls state lost m') ∧
    (∀ entity operation mark, Open cls state lost mark ↔ ∃ m m',
      (∀ other, other ≠ mark → other.isBorne m = other.isBorne m') ∧
        verdict entity operation cls state lost m ≠ verdict entity operation cls state lost m') ∧
    (∀ entity operation,
      (∀ m m', verdict entity operation cls state lost m =
        verdict entity operation cls state lost m') ↔
      cls = .integrity ∧ state = uniqueState ∨ cls ≠ .integrity ∧ state = canceledState) ∧
    ∀ entity operation m,
      verdict entity operation cls state lost m = some "UniqueViolationError" ↔
        cls = .integrity ∧ (state = uniqueState ∨ occursIn uniqueMarker m) := by
  refine ⟨fun _ _ _ _ _ _ h => verdict_congr h, fun _ _ _ => open_iff, ?_,
    fun _ _ _ => verdict_eq_uniqueViolation_iff⟩
  intro entity operation
  rw [← forall_not_open_iff lost]
  constructor
  · intro h mark hopen
    exact verdict_sample hopen (h _ _)
  · intro h m m'
    exact verdict_congr fun mark hopen => absurd hopen (h mark)

/-- What a server says of a row without a title, the row included. -/
def untitled (row : String) : String :=
  "null value in column \"title\" violates not-null constraint\nDETAIL:  Failing row contains ("
    ++ row ++ ")."

theorem untitled_unsteered :
    (∀ mark, Open .integrity "23502" false mark →
      mark.isBorne (untitled "1, Dune") = mark.isBorne (untitled "2, Emma")) ∧
    verdict "books" "create" .integrity "23502" false (untitled "1, Dune") =
      verdict "books" "update" .integrity "23502" false (untitled "2, Emma") := by
  have hmarks : ∀ mark, Open .integrity "23502" false mark →
      mark.isBorne (untitled "1, Dune") = mark.isBorne (untitled "2, Emma") := by
    rintro (_ | _ | _) hopen
    · decide +kernel
    · decide +kernel
    · cases hopen.1
  exact ⟨hmarks, (verdict_steered_iff .integrity "23502" false).1 _ _ _ _ _ _ hmarks⟩

/-- A stored value can turn a missing title into a repeated key. -/
theorem untitled_steered :
    verdict "books" "create" .integrity "23502" false (untitled "1, Dune") = some "StorageError" ∧
    verdict "books" "create" .integrity "23502" false (untitled "1, UNIQUE constraint failed") =
      some "UniqueViolationError" := by
  decide +kernel

end Fault

end Database

end EntityStore
