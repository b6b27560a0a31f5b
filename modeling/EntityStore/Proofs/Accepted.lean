import EntityStore.Entity.Check
import EntityStore.Proofs.Traversal
import EntityStore.Schema.Table
import Mathlib.Data.List.Nodup

/-! # What acceptance promises

A descriptor is accepted when its check finds nothing. Each promise of the check is stated once
here, as a fact about the descriptor or about one of its fields.
-/
namespace EntityStore

theorem repeatedFields_nil {names : List String} (h : repeatedFields names = []) :
    names.Nodup := by
  rw [List.nodup_iff_count_le_one]
  intro n
  by_cases hn : n ∈ names
  · have hp := List.filterMap_eq_nil_iff.mp h n (List.mem_eraseDups.mpr hn)
    by_contra hc
    simp [Nat.lt_of_not_le hc] at hp
  · simp [List.count_eq_zero_of_not_mem hn]

theorem nameProblems_nil {role : NameRole} {name : String} (h : nameProblems role name = []) :
    isIdentifier name = true ∧ name.length ≤ maxIdentifierLength := by
  unfold nameProblems at h
  split at h
  · cases h
  · split at h
    · cases h
    · rename_i hi hl
      exact ⟨by simpa using hi, by omega⟩

/-- A list of problems that is made only under a condition. -/
theorem problems_nil {α : Type} {p : Prop} [Decidable p] {a : α} {l : List α}
    (h : (if p then a :: l else []) = []) : ¬ p := by
  intro hp
  simp [hp] at h

namespace Field

/-- What the check of a field promises about it. -/
structure Sound (f : Field) : Prop where
  name : isIdentifier f.name = true ∧ f.name.length ≤ maxIdentifierLength
  notImplicit : f.name ∉ implicitColumns
  storage : f.storageType ∈ f.kind.allowedStorage
  scale : ∀ s, f.storage.scale = some s → ∃ p, f.storage.precision = some p ∧ s ≤ p
  options : f.kind = .singleChoice → ∀ n, f.varcharLength? = some n →
    ∀ o ∈ f.rules.options, o.length ≤ n
  filled : f.required = true ∨ f.isNullable = true ∨ f.hasDefault = true
  default : ∀ x, f.storage.default = some x → defaultProblems f x = []

namespace Sound

variable {f : Field}

theorem integer_storage (hs : f.Sound) (hk : f.kind = .integer) :
    f.storageType = .bigint ∨ f.storageType = .integer ∨ f.storageType = .smallint := by
  have ha := hs.storage
  rw [hk] at ha
  simpa [FieldKind.allowedStorage] using ha

theorem decimal_storage (hs : f.Sound) (hk : f.kind = .decimal) :
    f.storageType = .decimal ∨ f.storageType = .doublePrecision ∨ f.storageType = .numeric ∨
      f.storageType = .real := by
  have ha := hs.storage
  rw [hk] at ha
  simpa [FieldKind.allowedStorage] using ha

end Sound

end Field

theorem storageProblems_nil {f : Field} (h : storageProblems f = []) :
    f.storageType ∈ f.kind.allowedStorage ∧
      ∀ s, f.storage.scale = some s → ∃ p, f.storage.precision = some p ∧ s ≤ p := by
  simp only [storageProblems, List.append_eq_nil_iff] at h
  obtain ⟨⟨⟨⟨ha, -⟩, -⟩, hn⟩, hc⟩ := h
  refine ⟨by simpa using ha, ?_⟩
  intro s hs
  cases hp : f.storage.precision with
  | none => simp [hs, hp] at hn
  | some p =>
    simp only [hs, hp] at hc
    exact ⟨p, rfl, Nat.le_of_not_lt (problems_nil hc)⟩

theorem optionProblems_nil {f : Field} (h : optionProblems f = []) (hk : f.kind = .singleChoice)
    {n : Nat} (hn : f.varcharLength? = some n) : ∀ o ∈ f.rules.options, o.length ≤ n := by
  simp only [optionProblems, hk, ne_eq, not_true_eq_false, if_false, hn,
    List.append_eq_nil_iff] at h
  simpa using problems_nil h.2

theorem fieldProblems_nil {f : Field} (h : fieldProblems f = .ok []) : f.Sound := by
  obtain ⟨patterns, -, h⟩ := bind_ok.mp h
  simp only [pure, Except.pure, Except.ok.injEq, List.append_eq_nil_iff, List.map_eq_nil_iff] at h
  obtain ⟨⟨hn, hi⟩, ⟨⟨⟨⟨⟨hs, -⟩, -⟩, -⟩, ho⟩, hl⟩, hd⟩ := h
  obtain ⟨ha, hc⟩ := storageProblems_nil hs
  refine ⟨nameProblems_nil hn, by simpa using problems_nil hi, ha, hc,
    fun hk n => optionProblems_nil ho hk, ?_, ?_⟩
  · by_contra hk
    simp only [not_or] at hk
    exact problems_nil hl ⟨hk.1, hk.2.1, hk.2.2⟩
  · intro x hx
    simpa [hx] using hd

namespace Descriptor

variable {d : Descriptor}

theorem Accepted.problems (hd : d.Accepted) :
    nameProblems .entity d.name = [] ∧ repeatedFields d.fieldNames = [] ∧
      ∀ f ∈ d.fields, fieldProblems f = .ok [] := by
  obtain ⟨lists, hm, h⟩ := bind_ok.mp hd
  simp only [pure, Except.pure, Except.ok.injEq, List.append_eq_nil_iff,
    List.flatten_eq_nil_iff] at h
  obtain ⟨⟨hn, hr⟩, hl⟩ := h
  refine ⟨hn, hr, ?_⟩
  intro f hf
  obtain ⟨problems, hp, hok⟩ := mapM_ok_mem hm hf
  rw [hok, hl problems hp]

theorem Accepted.name (hd : d.Accepted) :
    isIdentifier d.name = true ∧ d.name.length ≤ maxIdentifierLength :=
  nameProblems_nil hd.problems.1

theorem Accepted.distinct (hd : d.Accepted) : d.fieldNames.Nodup :=
  repeatedFields_nil hd.problems.2.1

theorem Accepted.sound (hd : d.Accepted) {f : Field} (hf : f ∈ d.fields) : f.Sound :=
  fieldProblems_nil (hd.problems.2.2 f hf)

theorem Accepted.field_eq (hd : d.Accepted) {f g : Field} (hf : f ∈ d.fields)
    (hg : g ∈ d.fields) (h : f.name = g.name) : f = g :=
  List.inj_on_of_nodup_map hd.distinct hf hg h

/-- No two columns have one name, the implicit ones included. -/
theorem Accepted.columns_distinct (hd : d.Accepted) : d.columnNames.Nodup := by
  refine List.nodup_append'.mpr ⟨by decide, hd.distinct, ?_⟩
  intro n hn hf
  obtain ⟨f, hm, rfl⟩ := List.mem_map.mp hf
  exact (hd.sound hm).notImplicit hn

end Descriptor

end EntityStore
