import EntityStore.Value
import Mathlib.Data.List.Forall2
import Mathlib.Data.List.ReduceOption

/-! # Steps that may fail

A chain of steps succeeds exactly if every step does. A list is traversed element by element, so a
traversal that succeeds relates each element to its result.
-/
namespace EntityStore

section Steps

variable {α β ε δ : Type}

theorem bind_ok {x : Except ε α} {f : α → Except ε β} {b : β} :
    (x >>= f) = .ok b ↔ ∃ a, x = .ok a ∧ f a = .ok b := by
  cases x with
  | error e => simp [bind, Except.bind]
  | ok a => simp [bind, Except.bind]

@[simp] theorem ok_bind (a : α) (f : α → Except ε β) : (Except.ok a >>= f) = f a := rfl

@[simp] theorem error_bind (e : ε) (f : α → Except ε β) :
    ((Except.error e : Except ε α) >>= f) = .error e := rfl

theorem map_ok {x : Except ε α} {f : α → β} {b : β} :
    x.map f = .ok b ↔ ∃ a, x = .ok a ∧ f a = b := by
  cases x with
  | error e => simp [Except.map]
  | ok a => simp [Except.map]

theorem map_error {x : Except ε α} {f : α → β} {e : ε} : x.map f = .error e ↔ x = .error e := by
  cases x with
  | error e' => simp [Except.map]
  | ok a => simp [Except.map]

theorem mapError_ok {x : Except ε α} {f : ε → δ} {a : α} : x.mapError f = .ok a ↔ x = .ok a := by
  cases x with
  | error e => simp [Except.mapError]
  | ok b => simp [Except.mapError]

theorem ok_of_toOption {x : Except ε α} {a : α} (h : x.toOption = some a) : x = .ok a := by
  cases x with
  | error e => cases h
  | ok b => exact congrArg Except.ok (Option.some.inj h)

end Steps

section Lists

variable {α β ε : Type}

theorem forall₂_mem {P : α → β → Prop} {l : List α} {m : List β} (h : List.Forall₂ P l m) {a : α}
    (ha : a ∈ l) : ∃ b ∈ m, P a b := by
  obtain ⟨i, hi, rfl⟩ := List.mem_iff_getElem.mp ha
  obtain ⟨hl, hp⟩ := List.forall₂_iff_get.mp h
  have ho : i < m.length := hl ▸ hi
  exact ⟨m[i], List.getElem_mem ho, hp i hi ho⟩

/-- Two lists beside one list stand beside each other. -/
theorem forall₂_join {γ : Type} {P : α → β → Prop} {Q : α → γ → Prop} {R : β → γ → Prop}
    {l : List α} {a : List β} {b : List γ} (ha : List.Forall₂ P l a) (hb : List.Forall₂ Q l b)
    (h : ∀ x ∈ l, ∀ y z, P x y → Q x z → R y z) : List.Forall₂ R a b := by
  induction ha generalizing b with
  | nil =>
    cases hb
    exact .nil
  | cons hp _ ih =>
    cases hb with
    | cons hq hb =>
      refine .cons (h _ (List.mem_cons_self ..) _ _ hp hq) (ih hb ?_)
      intro x hx
      exact h x (List.mem_cons_of_mem _ hx)

theorem zip_map_self (l : List α) (g : α → β) :
    l.zip (l.map g) = l.map fun a => (a, g a) := by
  simpa using (List.zip_map' : (l.map id).zip (l.map g) = _)

theorem zip_map_zip {γ : Type} (l : List α) (m : List β) (g : α × β → γ) :
    l.zip ((l.zip m).map g) = (l.zip m).map fun p => (p.1, g p) := by
  induction l generalizing m with
  | nil => rfl
  | cons a l ih =>
    cases m with
    | nil => rfl
    | cons b m => simp [ih]

theorem mapM_ok_iff {f : α → Except ε β} {l : List α} {out : List β} :
    l.mapM f = .ok out ↔ List.Forall₂ (fun a b => f a = .ok b) l out := by
  induction l generalizing out with
  | nil => simp [pure, Except.pure, eq_comm]
  | cons a l ih =>
    rw [List.mapM_cons, List.forall₂_cons_left_iff]
    constructor
    · intro h
      obtain ⟨b, hb, h⟩ := bind_ok.mp h
      obtain ⟨rest, hr, h⟩ := bind_ok.mp h
      injection h with h
      exact ⟨b, rest, hb, ih.mp hr, h.symm⟩
    · rintro ⟨b, rest, hb, hr, rfl⟩
      exact bind_ok.mpr ⟨b, hb, bind_ok.mpr ⟨rest, ih.mpr hr, rfl⟩⟩

theorem mapM_mem {f : α → Except ε β} {l : List α} {out : List β} (h : l.mapM f = .ok out) {b : β} :
    b ∈ out ↔ ∃ a ∈ l, f a = .ok b := by
  obtain ⟨hl, hp⟩ := List.forall₂_iff_get.mp (mapM_ok_iff.mp h)
  constructor
  · intro hb
    obtain ⟨i, hi, rfl⟩ := List.mem_iff_getElem.mp hb
    exact ⟨l.get ⟨i, hl ▸ hi⟩, List.get_mem _ _, hp i (hl ▸ hi) hi⟩
  · rintro ⟨a, ha, hb⟩
    obtain ⟨i, hi, rfl⟩ := List.mem_iff_getElem.mp ha
    have hk : f l[i] = .ok out[i] := hp i hi (hl ▸ hi)
    rw [hb] at hk
    injection hk with hk
    exact hk ▸ List.getElem_mem _

theorem mapM_ok_mem {f : α → Except ε β} {l : List α} {out : List β} (h : l.mapM f = .ok out)
    {a : α} (ha : a ∈ l) : ∃ b ∈ out, f a = .ok b := forall₂_mem (mapM_ok_iff.mp h) ha

theorem mapM_error {f : α → Except ε β} {l : List α} {e : ε} (h : l.mapM f = .error e) :
    ∃ a ∈ l, f a = .error e := by
  induction l with
  | nil => cases h
  | cons a l ih =>
    rw [List.mapM_cons] at h
    cases ha : f a with
    | error e' =>
      rw [ha] at h
      injection h with h
      exact ⟨a, by simp, h ▸ ha⟩
    | ok b =>
      cases hl : l.mapM f with
      | error e' =>
        rw [ha, hl] at h
        injection h with h
        obtain ⟨x, hx, hf⟩ := ih (h ▸ hl)
        exact ⟨x, List.mem_cons_of_mem _ hx, hf⟩
      | ok rest =>
        rw [ha, hl] at h
        cases h

theorem mapM_congr {f g : α → Except ε β} {l : List α} (h : ∀ a ∈ l, f a = g a) :
    l.mapM f = l.mapM g := by
  induction l with
  | nil => rfl
  | cons a l ih =>
    rw [List.mapM_cons, List.mapM_cons, h a (List.mem_cons_self ..),
      ih fun b hb => h b (List.mem_cons_of_mem _ hb)]

theorem mapM_map_result {γ : Type} {f : α → Except ε β} {g : β → γ} {l : List α} :
    (l.mapM fun a => (f a).map g) = (l.mapM f).map (List.map g) := by
  induction l with
  | nil => rfl
  | cons a l ih =>
    rw [List.mapM_cons, List.mapM_cons, ih]
    cases f a with
    | error e => rfl
    | ok b =>
      cases l.mapM f with
      | error e => rfl
      | ok rest => rfl

theorem filterMapM_ok_iff {f : α → Except ε (Option β)} {l : List α} {out : List β} :
    l.filterMapM f = .ok out ↔
      ∃ found, List.Forall₂ (fun a b => f a = .ok b) l found ∧ out = found.reduceOption := by
  induction l generalizing out with
  | nil => simp [pure, Except.pure, eq_comm]
  | cons a l ih =>
    rw [List.filterMapM_cons]
    simp only [List.forall₂_cons_left_iff]
    constructor
    · intro h
      obtain ⟨b, hb, h⟩ := bind_ok.mp h
      cases b with
      | none =>
        obtain ⟨found, hf, rfl⟩ := ih.mp h
        exact ⟨none :: found, ⟨none, found, hb, hf, rfl⟩, by simp⟩
      | some b =>
        obtain ⟨rest, hr, h⟩ := bind_ok.mp h
        injection h with h
        obtain ⟨found, hf, rfl⟩ := ih.mp hr
        exact ⟨some b :: found, ⟨some b, found, hb, hf, rfl⟩, by simp [← h]⟩
    · rintro ⟨_, ⟨b, found, hb, hf, rfl⟩, rfl⟩
      refine bind_ok.mpr ⟨b, hb, ?_⟩
      cases b with
      | none => simpa using ih.mpr ⟨found, hf, rfl⟩
      | some b =>
        exact bind_ok.mpr ⟨found.reduceOption, ih.mpr ⟨found, hf, rfl⟩, by simp; rfl⟩

theorem filterMapM_error {f : α → Except ε (Option β)} {l : List α} {e : ε}
    (h : l.filterMapM f = .error e) : ∃ a ∈ l, f a = .error e := by
  induction l with
  | nil => cases h
  | cons a l ih =>
    rw [List.filterMapM_cons] at h
    cases ha : f a with
    | error e' =>
      rw [ha, error_bind] at h
      injection h with h
      exact ⟨a, by simp, h ▸ ha⟩
    | ok b =>
      have hl : l.filterMapM f = .error e := by
        rw [ha, ok_bind] at h
        cases b with
        | none => exact h
        | some b =>
          cases hr : l.filterMapM f with
          | error e' => simpa [hr] using h
          | ok rest => simp [hr, pure, Except.pure] at h
      obtain ⟨x, hx, hf⟩ := ih hl
      exact ⟨x, List.mem_cons_of_mem _ hx, hf⟩

theorem filterMapM_ok_mem {f : α → Except ε (Option β)} {l : List α} {out : List β}
    (h : l.filterMapM f = .ok out) {a : α} (ha : a ∈ l) : ∃ b, f a = .ok b := by
  obtain ⟨found, hf, -⟩ := filterMapM_ok_iff.mp h
  obtain ⟨b, -, hb⟩ := mapM_ok_mem (mapM_ok_iff.mpr hf) ha
  exact ⟨b, hb⟩

theorem filterMapM_mem {f : α → Except ε (Option β)} {l : List α} {out : List β}
    (h : l.filterMapM f = .ok out) {b : β} : b ∈ out ↔ ∃ a ∈ l, f a = .ok (some b) := by
  obtain ⟨found, hf, rfl⟩ := filterMapM_ok_iff.mp h
  rw [List.reduceOption_mem_iff]
  exact mapM_mem (mapM_ok_iff.mpr hf)

/-- What is made of some elements keeps their names in order. -/
theorem filterMap_sublist {γ : Type} {g : α → Option β} {name : α → γ} {name' : β → γ}
    (h : ∀ a b, g a = some b → name' b = name a) (l : List α) :
    ((l.filterMap g).map name').Sublist (l.map name) := by
  induction l with
  | nil => exact .refl _
  | cons a l ih =>
    rw [List.filterMap_cons]
    split
    · exact ih.cons _
    · rename_i b hb
      rw [List.map_cons, List.map_cons, h a b hb]
      exact ih.cons_cons _

end Lists

/-! ## Values by key -/

section Lookup

variable {α : Type} {l : List (String × α)} {k : String} {a : α}

theorem mem_of_lookup (h : l.lookup k = some a) : (k, a) ∈ l := by
  obtain ⟨l₁, l₂, rfl, -⟩ := List.lookup_eq_some_iff.mp h
  simp

theorem exists_lookup (h : (k, a) ∈ l) : ∃ b, l.lookup k = some b := by
  rw [← Option.isSome_iff_exists, List.lookup_isSome_iff]
  exact ⟨(k, a), h, by simp⟩

theorem lookup_of_mem (hl : (l.map (·.1)).Nodup) (h : (k, a) ∈ l) : l.lookup k = some a := by
  induction l with
  | nil => cases h
  | cons p l ih =>
    obtain ⟨hp, hl⟩ := List.nodup_cons.mp hl
    rcases List.mem_cons.mp h with rfl | h
    · simp
    · have hk : k ≠ p.1 := by
        rintro rfl
        exact hp (List.mem_map.mpr ⟨(p.1, a), h, rfl⟩)
      rw [List.lookup_cons, beq_eq_false_iff_ne.mpr hk]
      exact ih hl h

end Lookup

namespace Value

variable {entries : List (String × Value)} {key : String} {x : Value}

theorem entry?_absent (h : key ∉ entries.map (·.1)) : entry? entries key = none := by
  simp only [Value.entry?, Option.map_eq_none_iff, List.find?_eq_none, List.mem_reverse]
  intro p hp hkey
  exact h (List.mem_map.mpr ⟨p, hp, of_decide_eq_true hkey⟩)

/-- A key of a mapping has an entry, and any other text has none. -/
theorem entry?_none_iff : entry? entries key = none ↔ key ∉ entries.map (·.1) := by
  constructor
  · intro h hkey
    obtain ⟨⟨k, x⟩, hmem, rfl⟩ := List.mem_map.mp hkey
    simp only [Value.entry?, Option.map_eq_none_iff, List.find?_eq_none, List.mem_reverse] at h
    exact h _ hmem (by simp)
  · exact entry?_absent

theorem mem_of_entry (h : entry? entries key = some x) : (key, x) ∈ entries := by
  obtain ⟨p, hp, rfl⟩ := Option.map_eq_some_iff.mp h
  have hkey : p.1 = key := by simpa using List.find?_some hp
  exact hkey ▸ List.mem_reverse.mp (List.mem_of_find?_eq_some hp)

theorem entry?_of_mem (hl : (entries.map (·.1)).Nodup) (h : (key, x) ∈ entries) :
    entry? entries key = some x := by
  cases hy : entry? entries key with
  | none =>
    simp only [Value.entry?, Option.map_eq_none_iff, List.find?_eq_none, List.mem_reverse] at hy
    exact absurd (decide_eq_true rfl) (hy _ h)
  | some y =>
    have hlookup := lookup_of_mem hl (mem_of_entry hy)
    rw [lookup_of_mem hl h] at hlookup
    exact hlookup.symm

end Value

end EntityStore
