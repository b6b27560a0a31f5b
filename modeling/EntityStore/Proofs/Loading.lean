import EntityStore.Proofs.Limits
import EntityStore.Proofs.Transparency

/-! # How loading ends

Every reader gathers its problems, and none of them fails without telling one. So a value that does
not load is refused with the problems that are to be told, whatever was loaded before it, unless the
pattern of one of its fields is more than the reader of patterns takes.
-/
namespace EntityStore

/-! ## Gathered problems -/

namespace Gathered

variable {α β : Type}

/-- A reading that tells a problem if it fails. -/
inductive Told : Gathered α → Prop where
  | ok (a : α) : Told (.ok a)
  | error {problems : List Problem} (h : problems ≠ []) : Told (.error problems)

theorem told_refuse (cause : Refusal) : Told (refuse cause : Gathered α) := .error (by simp)

theorem told_ofRefusal (x : Except Refusal α) : Told (ofRefusal x) := by
  cases x with
  | ok a => exact .ok a
  | error cause => exact told_refuse cause

variable {f : Gathered (α → β)} {x : Gathered α}

theorem Told.within (h : Told x) (place : String) : Told (x.within place) := by
  cases h with
  | ok a => exact .ok a
  | error h => exact .error (by simpa using h)

theorem Told.map (h : Told x) (g : α → β) : Told (Except.map g x) := by
  cases h with
  | ok a => exact .ok (g a)
  | error h => exact .error h

theorem Told.and (hf : Told f) (hx : Told x) : Told (f.and x) := by
  cases hf with
  | ok g =>
    cases hx with
    | ok a => exact .ok (g a)
    | error hx => exact .error hx
  | error hf =>
    cases hx with
    | ok a => exact .error hf
    | error hx => exact .error (by simp [hf])

theorem Told.barring (h : Told x) (more : List Problem) : Told (x.barring more) := by
  unfold Gathered.barring
  split
  · exact h
  · rename_i hmore
    cases h with
    | ok a => exact .error (by simpa using hmore)
    | error h => exact .error (by simp [h])

end Gathered

/-! ## Readers -/

namespace Reading

open Gathered

variable {α : Type} {read : Value → Gathered α}

theorem items_told (h : ∀ v, Told (read v)) (i : Nat) (vs : List Value) :
    Told (items read i vs) := by
  induction vs generalizing i with
  | nil => exact .ok _
  | cons v rest ih => exact ((Told.ok _).and ((h v).within _)).and (ih (i + 1))

theorem tuple_told (h : ∀ v, Told (read v)) (v : Value) : Told (tuple read v) := by
  cases v with
  | list vs => exact items_told h 0 vs
  | _ => exact told_refuse _

theorem optional_told (h : ∀ v, Told (read v)) (entries : Entries) (key : String) (absent : α) :
    Told (optional entries key absent read) := by
  unfold optional
  split
  · exact .ok _
  · exact (h _).within key

theorem mandatory_told (h : ∀ v, Told (read v)) (entries : Entries) (key : String) :
    Told (mandatory entries key read) := by
  unfold mandatory
  split
  · exact .error (by simp)
  · exact (h _).within key

theorem nullable_told (h : ∀ v, Told (read v)) (v : Value) : Told (nullable read v) := by
  cases v with
  | null => exact .ok _
  | _ => exact (h _).map some

theorem word_told (words : List String) (ofWord? : String → Option α) (v : Value) :
    Told (word words ofWord? v) := by
  unfold word
  split
  · split
    · exact .ok _
    · exact told_refuse _
  · exact told_refuse _

theorem text_told (v : Value) : Told (text v) := told_ofRefusal _
theorem flag_told (v : Value) : Told (flag v) := told_ofRefusal _
theorem natural_told (v : Value) : Told (natural v) := told_ofRefusal _
theorem positive_told (v : Value) : Told (positive v) := told_ofRefusal _

end Reading

namespace Load

open Gathered Reading

theorem bound_told (v : Value) : Told (bound v) := by
  unfold bound
  split
  · exact .ok _
  · exact .ok _
  · split
    · exact .ok _
    · exact .ok _
    · exact .error (by simp)

theorem default_told (v : Value) : Told (default v) := by
  unfold default
  split
  · exact .ok _
  · exact .ok _
  · exact .ok _
  · exact .ok _
  · split
    · exact .ok _
    · exact .ok _
    · exact .ok _
    · exact .ok _
    · exact .error (by simp)

theorem predicate_told (v : Value) : Told (predicate v) := by
  unfold predicate
  split
  · split
    · exact .ok _
    · exact told_refuse _
  · exact told_refuse _

theorem refinement_told (v : Value) : Told (refinement v) := by
  cases v with
  | mapping entries =>
    exact ((Told.ok _).and (mandatory_told predicate_told entries _)).and
      (mandatory_told text_told entries _)
  | _ => exact told_refuse _

theorem rules_told (v : Value) : Told (rules v) := by
  cases v with
  | mapping entries =>
    have hnatural := optional_told (nullable_told natural_told) entries
    have htext := optional_told (nullable_told text_told) entries
    have hformat := optional_told (nullable_told (word_told (TextFormat.all.map (·.word)) TextFormat.ofWord?)) entries
    have hflag := optional_told flag_told entries
    have hbound := optional_told (nullable_told bound_told) entries
    exact (((((((((((Told.ok _).and (hnatural ..)).and (hnatural ..)).and (htext ..)).and
      (hformat ..)).and (hflag ..)).and (hflag ..)).and (hbound ..)).and (hbound ..)).and
      (optional_told (tuple_told text_told) ..)).and
      (optional_told (tuple_told refinement_told) ..)).barring _
  | _ => exact told_refuse _

theorem storage_told (v : Value) : Told (storage v) := by
  cases v with
  | mapping entries =>
    have htype := optional_told (nullable_told (word_told (StorageType.all.map (·.word)) StorageType.ofWord?)) entries
    have hpositive := optional_told (nullable_told positive_told) entries
    have hflag := optional_told flag_told entries
    exact (((((((((Told.ok _).and (htype ..)).and (hpositive ..)).and (hpositive ..)).and
      (optional_told (nullable_told natural_told) ..)).and
      (optional_told (nullable_told flag_told) ..)).and (hflag ..)).and (hflag ..)).and
      (optional_told (nullable_told default_told) ..)).barring _
  | _ => exact told_refuse _

theorem field_told (v : Value) : Told (field v) := by
  cases v with
  | mapping entries =>
    have htext := optional_told (nullable_told text_told) entries
    exact (((((((((Told.ok _).and (mandatory_told text_told ..)).and
      (mandatory_told (word_told _ FieldKind.ofWord?) ..)).and (optional_told flag_told ..)).and
      (optional_told rules_told ..)).and (optional_told storage_told ..)).and (htext ..)).and
      (htext ..)).and (htext ..)).barring _
  | _ => exact told_refuse _

/-- A value that is no descriptor is refused with a problem. -/
theorem descriptor_told (v : Value) : Told (descriptor v) := by
  cases v with
  | mapping entries =>
    have htext := optional_told (nullable_told text_told) entries
    exact (((((Told.ok _).and (mandatory_told text_told ..)).and
      (optional_told (tuple_told field_told) ..)).and (htext ..)).and (htext ..)).barring _
  | _ => exact told_refuse _

end Load

/-! ## Patterns that are too much -/

/-- A text in which the reader of patterns runs into a limit. -/
def Pattern.Overruns (text : String) : Prop := ∃ flaw, compile text = .error flaw ∧ flaw.IsLimit

theorem patternProblems_error_iff {r : Rules} :
    (∃ flaw, patternProblems r = .error flaw) ↔
      ∃ text, r.pattern = some text ∧ Pattern.Overruns text := by
  unfold patternProblems
  cases r.pattern with
  | none => simp
  | some text =>
    rcases hc : Pattern.compile text with flaw | compiled
    · cases flaw <;> simp [Pattern.Overruns, hc, Pattern.Flaw.IsLimit]
    · simp [Pattern.Overruns, hc]

namespace Descriptor

/-- A field has a pattern that is too much for the reader of patterns. -/
def Overruns (d : Descriptor) : Prop :=
  ∃ f ∈ d.fields, ∃ text, f.rules.pattern = some text ∧ Pattern.Overruns text

variable {d k : Descriptor}

theorem fieldProblems_error_iff {f : Field} : (∃ flaw, fieldProblems f = .error flaw) ↔
    ∃ text, f.rules.pattern = some text ∧ Pattern.Overruns text := by
  rw [← patternProblems_error_iff]
  unfold fieldProblems
  rcases patternProblems f.rules with flaw | patterns
  · simp
  · simp [pure, Except.pure]

theorem problems_error_iff : (∃ flaw, d.problems = .error flaw) ↔ d.Overruns := by
  unfold problems
  constructor
  · rintro ⟨flaw, h⟩
    cases hm : d.fields.mapM fieldProblems with
    | error e =>
      obtain ⟨f, hf, he⟩ := mapM_error hm
      exact ⟨f, hf, fieldProblems_error_iff.mp ⟨e, he⟩⟩
    | ok lists =>
      rw [hm] at h
      cases h
  · rintro ⟨f, hf, hover⟩
    obtain ⟨flaw, he⟩ := fieldProblems_error_iff.mpr hover
    cases hm : d.fields.mapM fieldProblems with
    | error e => exact ⟨e, rfl⟩
    | ok lists =>
      obtain ⟨list, -, hok⟩ := mapM_ok_mem hm hf
      rw [he] at hok
      cases hok

theorem Accepted.readable (hd : d.Accepted) : ¬ d.Overruns := by
  rw [← problems_error_iff]
  rintro ⟨flaw, h⟩
  rw [hd] at h
  cases h

theorem sameList_mem {α : Type} {same : α → α → Bool} {as bs : List α}
    (h : sameList same as bs = true) {b : α} (hb : b ∈ bs) : ∃ a ∈ as, same a b = true := by
  induction as generalizing bs with
  | nil =>
    cases bs with
    | nil => cases hb
    | cons b' bs => cases h
  | cons a as ih =>
    cases bs with
    | nil => cases h
    | cons b' bs =>
      rw [sameList, Bool.and_eq_true] at h
      rcases List.mem_cons.mp hb with rfl | hb
      · exact ⟨a, List.mem_cons_self .., h.1⟩
      · obtain ⟨x, hx, hsame⟩ := ih h.2 hb
        exact ⟨x, List.mem_cons_of_mem _ hx, hsame⟩

/-- Descriptors that are the same have the same patterns. -/
theorem Overruns.of_same (hd : d.Overruns) (h : k.same d = true) : k.Overruns := by
  obtain ⟨f, hf, text, htext, hover⟩ := hd
  simp only [same, Bool.and_eq_true] at h
  obtain ⟨g, hg, hsame⟩ := sameList_mem h.1.1.2 hf
  have hpattern : g.rules.pattern = f.rules.pattern := by
    simp only [Field.same, Rules.same, Bool.and_eq_true, decide_eq_true_eq] at hsame
    exact hsame.1.1.1.1.2.1.1.1.1.1.1.1.2
  exact ⟨g, hg, text, hpattern.trans htext, hover⟩

end Descriptor

/-- A value of a descriptor that has a pattern that is too much. -/
def Load.Overruns (v : Value) : Prop := ∃ d, Load.descriptor v = .ok d ∧ d.Overruns

/-! ## How loading ends -/

/-- Loading ends with an accepted descriptor, or is refused with one problem at least. -/
inductive Settled : Except Failure Descriptor → Prop where
  | accepted {d : Descriptor} (h : d.Accepted) : Settled (.ok d)
  | refused (name : String) {problems : List String} (h : problems ≠ []) :
    Settled (.error (.descriptor name problems))

theorem not_settled_limit (flaw : Pattern.Flaw) :
    ¬ Settled (.error (LoadFailure.patternLimit flaw).failure) := by
  cases flaw <;> nofun

namespace Artifacts

variable {kept : Artifacts} {d : Descriptor} {v : Value}

/-- What is kept as accepted was accepted. -/
def Vetted (kept : Artifacts) : Prop := kept.checked.Sound fun k a => a = k ∧ k.Accepted

theorem Vetted.check (hkept : kept.Vetted) :
    (Settled (kept.check d).1 ↔ ¬ d.Overruns) ∧ (kept.check d).2.Vetted := by
  unfold Artifacts.check
  cases hr : kept.checked.answer? d with
  | some hit =>
    obtain ⟨⟨k, hsame, hk, haccepted⟩, hafter⟩ := hkept.answered hr
    refine ⟨iff_of_true (.accepted (hk ▸ haccepted)) ?_, hafter⟩
    exact fun hover => haccepted.readable (hover.of_same hsame)
  | none =>
    unfold Descriptor.check
    rcases hp : d.problems with flaw | _ | ⟨problem, problems⟩
    · have hover : d.Overruns := Descriptor.problems_error_iff.mp ⟨flaw, hp⟩
      exact ⟨iff_of_false (not_settled_limit flaw) (not_not_intro hover), hkept⟩
    · have haccepted : d.Accepted := hp
      exact ⟨iff_of_true (.accepted haccepted) haccepted.readable, hkept.add ⟨rfl, haccepted⟩⟩
    · have hover : ¬ d.Overruns := by
        rw [← Descriptor.problems_error_iff, hp]
        nofun
      exact ⟨iff_of_true (.refused _ (by simp)) hover, hkept⟩

theorem Vetted.schema (hkept : kept.Vetted) : (kept.schema d).2.Vetted := by
  have hcheck := (hkept.check (d := d)).2
  unfold Artifacts.schema
  split
  · exact hkept
  · split
    · rename_i h
      rw [h] at hcheck
      exact hcheck
    · rename_i h
      rw [h] at hcheck
      exact hcheck

theorem Vetted.validator (hkept : kept.Vetted) : (kept.validator d).2.Vetted := by
  have hcheck := (hkept.check (d := d)).2
  unfold Artifacts.validator
  split
  · exact hkept
  · split
    · rename_i h
      rw [h] at hcheck
      exact hcheck
    · rename_i h
      rw [h] at hcheck
      split
      · exact hcheck
      · exact hcheck

theorem Vetted.load (hkept : kept.Vetted) :
    (Settled (kept.load v).1 ↔ ¬ Load.Overruns v) ∧ (kept.load v).2.Vetted := by
  have htold := Load.descriptor_told v
  unfold Artifacts.load Load.Overruns
  cases hv : Load.descriptor v with
  | error problems =>
    rw [hv] at htold
    cases htold with
    | error h => exact ⟨iff_of_true (.refused _ (by simpa using h)) nofun, hkept⟩
  | ok d => simpa using hkept.check

end Artifacts

namespace Demand

/-- What is kept after calls, one after another. -/
def after : Artifacts → List Demand → Artifacts
  | kept, [] => kept
  | kept, call :: rest => after (call.perform kept).2 rest

end Demand

namespace Artifacts

end Artifacts

end EntityStore
