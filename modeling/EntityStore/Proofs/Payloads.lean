import EntityStore.Proofs.Accepted
import EntityStore.Proofs.Ruled
import EntityStore.Validation.Payload

/-! # What a payload gives

A payload that passes gives a field the stored form of the value supplied for it. A full payload
gives the default of a field that it leaves out, and leaves out no mandatory field.
-/
namespace EntityStore

namespace Validator

variable {d : Descriptor} {v : Validator}

theorem defaults_mem (hv : ofDescriptor d = .ok v) {k : String} {x : Value} :
    (k, x) ∈ v.defaults ↔
      ∃ f ∈ d.fields, f.name = k ∧ ∃ y, f.storage.default = some y ∧ storedDefault f y = .ok x := by
  obtain ⟨defaults, hd, rfl⟩ := map_ok.mp hv
  rw [filterMapM_mem hd]
  constructor
  · rintro ⟨f, hf, h⟩
    split at h
    · cases h
    · rename_i y hy
      obtain ⟨z, hz, h⟩ := map_ok.mp h
      cases h
      exact ⟨f, hf, rfl, y, hy, hz⟩
  · rintro ⟨f, hf, rfl, y, hy, hx⟩
    refine ⟨f, hf, ?_⟩
    rw [hy]
    exact map_ok.mpr ⟨x, hx, rfl⟩

theorem exists_default (hv : ofDescriptor d = .ok v) {f : Field} (hf : f ∈ d.fields)
    {y : Default} (hy : f.storage.default = some y) : ∃ x, v.defaults.lookup f.name = some x := by
  obtain ⟨defaults, hd, rfl⟩ := map_ok.mp hv
  obtain ⟨b, hb⟩ := filterMapM_ok_mem hd hf
  rw [hy] at hb
  obtain ⟨x, hx, rfl⟩ := map_ok.mp hb
  have hm : (f.name, x) ∈ defaults := (filterMapM_mem hd).mpr ⟨f, hf, by rw [hy]; exact hb⟩
  exact exists_lookup hm

theorem ofDescriptor_descriptor (hv : ofDescriptor d = .ok v) : v.descriptor = d := by
  obtain ⟨defaults, -, rfl⟩ := map_ok.mp hv
  rfl

/-- A default passes its own rules, or they refuse it and it is kept as it is. -/
theorem storedDefault_ok {f : Field} {y : Default} {x : Value} (h : storedDefault f y = .ok x) :
    Rule.value f y.toValue = .ok x ∨
      x = y.toValue ∧ ∃ cause, Rule.value f y.toValue = .error (.refused cause) := by
  unfold storedDefault at h
  split at h
  · rename_i z hz
    injection h with h
    exact .inl (h ▸ hz)
  · rename_i cause hc
    injection h with h
    exact .inr ⟨h.symm, cause, hc⟩
  · cases h

/-- How a payload that passes comes to a value of a field. -/
inductive Gives (v : Validator) (mode : PayloadMode) (entries : List (String × Value)) (f : Field)
    (x : Value) : Prop where
  | supplied (raw : Value) (entry : Value.entry? entries f.name = some raw)
    (passes : Rule.value f raw = .ok x)
  | default (absent : Value.entry? entries f.name = none) (full : mode = .full)
    (kept : v.defaults.lookup f.name = some x)

/-- What is known of a payload that passes. -/
structure Passes (v : Validator) (mode : PayloadMode) (entries : List (String × Value))
    (values : FieldValues) : Prop where
  mem : ∀ k x, (k, x) ∈ values ↔
    ∃ f ∈ v.descriptor.fields, f.name = k ∧ Gives v mode entries f x
  sublist : (values.map (·.1)).Sublist v.descriptor.fieldNames
  supplied : ∀ f ∈ v.descriptor.fields, ∀ raw, Value.entry? entries f.name = some raw →
    ∃ x, Rule.value f raw = .ok x
  mandatory : mode = .full → ∀ f ∈ v.descriptor.fields, f.isMandatory = true →
    (Value.entry? entries f.name).isSome = true
  declared : ∀ k x, (k, x) ∈ entries → k ∈ v.descriptor.fieldNames

theorem entry_absent {mode : PayloadMode} {entries : List (String × Value)} {f : Field}
    (h : Value.entry? entries f.name = none) :
    entry mode entries f =
      .ok (if mode = .full ∧ f.isMandatory then .refused .missing else .absent) := by
  simp [entry, h]

/-- The entry of a field escapes where the value that is there does. -/
theorem entry_escapes {mode : PayloadMode} {entries : List (String × Value)} {f : Field}
    {e : Escape} : entry mode entries f = .error e ↔
      ∃ raw, Value.entry? entries f.name = some raw ∧ Rule.value f raw = .error (.escaped e) := by
  cases hr : Value.entry? entries f.name with
  | none => simp [entry_absent hr]
  | some raw =>
    simp only [entry, hr, Option.some.injEq, exists_eq_left']
    split <;> simp_all

section Gives

variable {mode : PayloadMode} {entries : List (String × Value)} {f : Field} {x : Value}

theorem gives_some {raw : Value} (h : Value.entry? entries f.name = some raw) :
    Gives v mode entries f x ↔ Rule.value f raw = .ok x := by
  constructor
  · rintro (⟨raw', h', hp⟩ | ⟨h', -, -⟩)
    · rw [h] at h'
      cases h'
      exact hp
    · rw [h] at h'
      cases h'
  · exact .supplied raw h

theorem gives_none (h : Value.entry? entries f.name = none) :
    Gives v mode entries f x ↔ mode = .full ∧ v.defaults.lookup f.name = some x := by
  constructor
  · rintro (⟨raw, h', -⟩ | ⟨-, hm, hk⟩)
    · rw [h] at h'
      cases h'
    · exact ⟨hm, hk⟩
  · rintro ⟨hm, hk⟩
    exact .default h hm hk

/-- A value of a field that has no violation is one that the payload gives. -/
theorem keep_entry {e : Entry} {k : String} (he : entry mode entries f = .ok e)
    (hv : violation? f e = none) :
    keep v.defaults mode f e = some (k, x) ↔ k = f.name ∧ Gives v mode entries f x := by
  cases hr : Value.entry? entries f.name with
  | none =>
    rw [gives_none hr]
    rw [entry_absent hr] at he
    injection he with he
    split at he
    · subst he
      cases hv
    · subst he
      cases mode with
      | patch => simp [keep]
      | full =>
        simp only [keep, if_true, Option.map_eq_some_iff, Prod.mk.injEq, true_and]
        constructor
        · rintro ⟨y, hy, rfl, rfl⟩
          exact ⟨rfl, hy⟩
        · rintro ⟨rfl, h⟩
          exact ⟨x, h, rfl, rfl⟩
  | some raw =>
    rw [gives_some hr]
    simp only [entry, hr] at he
    split at he
    · rename_i y hy
      injection he with he
      subst he
      simp only [keep, hy, Option.some.injEq, Prod.mk.injEq, Except.ok.injEq, eq_comm]
    · injection he with he
      subst he
      cases hv
    · cases he

end Gives

theorem passes_of_entry {mode : PayloadMode} {entries : List (String × Value)} {f : Field}
    {e : Entry} {raw : Value} (hr : Value.entry? entries f.name = some raw)
    (he : entry mode entries f = .ok e) (hv : violation? f e = none) :
    ∃ x, Rule.value f raw = .ok x := by
  simp only [entry, hr] at he
  split at he
  · exact ⟨_, by assumption⟩
  · injection he with he
    subst he
    cases hv
  · cases he

theorem keep_name {defaults : FieldValues} {mode : PayloadMode} {f : Field} {e : Entry}
    {p : String × Value} (h : keep defaults mode f e = some p) : p.1 = f.name := by
  unfold keep at h
  split at h
  · injection h with h
    rw [← h]
  · split at h
    · obtain ⟨y, -, rfl⟩ := Option.map_eq_some_iff.mp h
      rfl
    · cases h

theorem found_names {mode : PayloadMode} {entries : List (String × Value)}
    {fields : List Field} {found : List (Field × Entry)}
    (h : (fields.mapM fun f => (entry mode entries f).map fun e => (f, e)) = .ok found) :
    found.map (·.1) = fields := by
  rw [← List.forall₂_eq_eq_eq, List.forall₂_map_left_iff]
  refine (mapM_ok_iff.mp h).flip.imp ?_
  rintro ⟨f, e⟩ g hg
  obtain ⟨e', -, hg⟩ := map_ok.mp hg
  injection hg with hg
  exact hg.symm

theorem mem_found {mode : PayloadMode} {entries : List (String × Value)}
    {fields : List Field} {found : List (Field × Entry)}
    (h : (fields.mapM fun f => (entry mode entries f).map fun e => (f, e)) = .ok found)
    {f : Field} {e : Entry} : (f, e) ∈ found ↔ f ∈ fields ∧ entry mode entries f = .ok e := by
  rw [mapM_mem h]
  constructor
  · rintro ⟨g, hg, hm⟩
    obtain ⟨e', he, hp⟩ := map_ok.mp hm
    cases hp
    exact ⟨hg, he⟩
  · rintro ⟨hf, he⟩
    exact ⟨f, hf, map_ok.mpr ⟨e, he, rfl⟩⟩

theorem strays_nil {d : Descriptor} {entries : List (String × Value)} (h : strays d entries = [])
    {k : String} {x : Value} (hk : (k, x) ∈ entries) : k ∈ d.fieldNames := by
  by_contra hc
  have hmem : (⟨k, strayCause k⟩ : Violation) ∈ strays d entries :=
    List.mem_map.mpr ⟨(k, x), List.mem_filter.mpr ⟨hk, by simpa using hc⟩, rfl⟩
  rw [h] at hmem
  cases hmem

theorem checkEntries_ok {mode : PayloadMode} {entries : List (String × Value)}
    {values : FieldValues} (h : v.checkEntries mode entries = .ok (.ok values)) :
    Passes v mode entries values := by
  obtain ⟨found, hf, h⟩ := bind_ok.mp h
  injection h with h
  split at h
  case isFalse => cases h
  rename_i hn
  injection h with h
  subst h
  obtain ⟨hn, hs⟩ := List.append_eq_nil_iff.mp (List.isEmpty_iff.mp hn)
  have hfine : ∀ f e, (f, e) ∈ found → violation? f e = none := by
    intro f e hfe
    exact List.filterMap_eq_nil_iff.mp hn (f, e) hfe
  have hall : ∀ f ∈ v.descriptor.fields, ∃ e, entry mode entries f = .ok e ∧ (f, e) ∈ found := by
    intro f hfm
    obtain ⟨p, hp, h⟩ := mapM_ok_mem hf hfm
    obtain ⟨e, he, rfl⟩ := map_ok.mp h
    exact ⟨e, he, hp⟩
  refine ⟨?_, ?_, ?_, ?_, fun k x => strays_nil hs⟩
  · intro k x
    rw [List.mem_filterMap]
    constructor
    · rintro ⟨⟨f, e⟩, hfe, hk⟩
      obtain ⟨hfm, he⟩ := (mem_found hf).mp hfe
      obtain ⟨rfl, hg⟩ := (keep_entry he (hfine f e hfe)).mp hk
      exact ⟨f, hfm, rfl, hg⟩
    · rintro ⟨f, hfm, rfl, hg⟩
      obtain ⟨e, he, hfe⟩ := hall f hfm
      exact ⟨(f, e), hfe, (keep_entry he (hfine f e hfe)).mpr ⟨rfl, hg⟩⟩
  · rw [Descriptor.fieldNames, ← found_names hf, List.map_map]
    exact filterMap_sublist (fun _ _ => keep_name) found
  · intro f hfm raw hr
    obtain ⟨e, he, hfe⟩ := hall f hfm
    exact passes_of_entry hr he (hfine f e hfe)
  · intro hm f hfm hman
    obtain ⟨e, he, hfe⟩ := hall f hfm
    rw [Option.isSome_iff_ne_none]
    intro ha
    rw [entry_absent ha, if_pos ⟨hm, hman⟩] at he
    injection he with he
    have := hfine f e hfe
    rw [← he] at this
    cases this

/-- A value is one that was supplied and passed, or the default of a field that was left out. -/
theorem Passes.origin {mode : PayloadMode} {entries : List (String × Value)} {values : FieldValues}
    (hd : d.Accepted) (hv : ofDescriptor d = .ok v) (h : Passes v mode entries values) {f : Field}
    (hf : f ∈ d.fields) {x : Value} (hx : (f.name, x) ∈ values) :
    (∃ raw, Rule.value f raw = .ok x) ∨ Value.entry? entries f.name = none ∧
      ∃ y, f.storage.default = some y ∧ storedDefault f y = .ok x := by
  obtain rfl := ofDescriptor_descriptor hv
  obtain ⟨g, hg, hn, hgives⟩ := (h.mem f.name x).mp hx
  obtain rfl := hd.field_eq hg hf hn
  cases hgives with
  | supplied raw _ hr => exact .inl ⟨raw, hr⟩
  | default ha _ hk =>
    obtain ⟨k, hkf, hkn, y, hy, hst⟩ := (defaults_mem hv).mp (mem_of_lookup hk)
    obtain rfl := hd.field_eq hkf hg hkn
    exact .inr ⟨ha, y, hy, hst⟩

/-- A full payload that passes gives every field that must hold something. -/
theorem Passes.filled {entries : List (String × Value)} {values : FieldValues}
    (hd : d.Accepted) (hv : ofDescriptor d = .ok v) (h : Passes v .full entries values) {f : Field}
    (hf : f ∈ d.fields) (hn : f.isNullable = false) : ∃ x, (f.name, x) ∈ values := by
  obtain rfl := ofDescriptor_descriptor hv
  cases hr : Value.entry? entries f.name with
  | some raw =>
    obtain ⟨x, hx⟩ := h.supplied f hf raw hr
    exact ⟨x, (h.mem f.name x).mpr ⟨f, hf, rfl, .supplied raw hr hx⟩⟩
  | none =>
    have hm : f.isMandatory = false := by
      by_contra hm
      have := h.mandatory rfl f hf (by simpa using hm)
      simp [hr] at this
    have hdef : f.hasDefault = true := by
      rcases (hd.sound hf).filled with h | h | h
      · simpa [Field.isMandatory, h] using hm
      · simp [hn] at h
      · exact h
    obtain ⟨y, hy⟩ := Option.isSome_iff_exists.mp hdef
    obtain ⟨x, hx⟩ := exists_default hv hf hy
    exact ⟨x, (h.mem f.name x).mpr ⟨f, hf, rfl, .default hr rfl hx⟩⟩

theorem check_ok {mode : PayloadMode} {data : Value} {values : FieldValues}
    (h : v.check mode data = .ok (.ok values)) :
    ∃ entries, data = .mapping entries ∧ Passes v mode entries values := by
  unfold check at h
  split at h
  · exact ⟨_, rfl, checkEntries_ok h⟩
  · cases h

/-! ## One value -/

section Single

variable {f : Field} {raw : Value}

theorem entry?_single (f : Field) (raw : Value) :
    Value.entry? [(f.name, raw)] f.name = some raw := by simp [Value.entry?]

theorem entry_other (hd : d.Accepted) (hf : f ∈ d.fields) {g : Field} (hg : g ∈ d.fields)
    (hne : g ≠ f) : entry .patch [(f.name, raw)] g = .ok .absent := by
  have hname : f.name ≠ g.name := fun hn => hne (hd.field_eq hg hf hn.symm)
  rw [entry_absent (by simp [Value.entry?, hname])]
  simp

theorem check_found (hf : f ∈ v.descriptor.fields) {found : List (Field × Entry)}
    (hm : (v.descriptor.fields.mapM fun g =>
      (entry .patch [(f.name, raw)] g).map fun e => (g, e)) = .ok found) :
    v.check .patch (.mapping [(f.name, raw)]) =
      .ok (if (found.filterMap fun p => violation? p.1 p.2).isEmpty then
        .ok (found.filterMap fun p => keep v.defaults .patch p.1 p.2)
      else .error (found.filterMap fun p => violation? p.1 p.2)) := by
  have hname : f.name ∈ v.descriptor.fieldNames := List.mem_map_of_mem hf
  have hstrays : strays v.descriptor [(f.name, raw)] = [] := by simp [strays, hname]
  simp only [check, checkEntries, hm, ok_bind, hstrays, List.append_nil]
  rfl

/-- Only the field of the value can end the check. -/
theorem escapes_single (hd : v.descriptor.Accepted) (hf : f ∈ v.descriptor.fields) {escape : Escape}
    (hm : (v.descriptor.fields.mapM fun g =>
      (entry .patch [(f.name, raw)] g).map fun e => (g, e)) = .error escape) :
    Rule.value f raw = .error (.escaped escape) := by
  obtain ⟨g, hg, he⟩ := mapM_error hm
  by_cases hgf : g = f
  · subst hgf
    obtain ⟨x, hx, hescape⟩ := entry_escapes.mp (map_error.mp he)
    rw [entry?_single] at hx
    cases hx
    exact hescape
  · rw [entry_other hd hf hg hgf] at he
    cases he

/-- Only the field of the value can be complained about. -/
theorem violations_single (hd : v.descriptor.Accepted) (hf : f ∈ v.descriptor.fields)
    {found : List (Field × Entry)} (hm : (v.descriptor.fields.mapM fun g =>
      (entry .patch [(f.name, raw)] g).map fun e => (g, e)) = .ok found) {e : Entry}
    (he : entry .patch [(f.name, raw)] f = .ok e) (hfine : violation? f e = none) :
    (found.filterMap fun p => violation? p.1 p.2) = [] := by
  rw [List.filterMap_eq_nil_iff]
  rintro ⟨g, e'⟩ hg
  obtain ⟨hgm, hge⟩ := (mem_found hm).mp hg
  by_cases hgf : g = f
  · subst hgf
    rw [he] at hge
    cases hge
    exact hfine
  · rw [entry_other hd hf hgm hgf] at hge
    cases hge
    rfl

/-- The check of a payload of one value says what the rules of its field say of the value. -/
theorem check_single (hd : d.Accepted) (hv : ofDescriptor d = .ok v) (hf : f ∈ d.fields)
    (raw : Value) :
    match Rule.value f raw with
    | .ok x => ∃ values, v.check .patch (.mapping [(f.name, raw)]) = .ok (.ok values) ∧
        values.lookup f.name = some x
    | .error (.refused _) =>
      ∃ violations, v.check .patch (.mapping [(f.name, raw)]) = .ok (.error violations)
    | .error (.escaped escape) => v.check .patch (.mapping [(f.name, raw)]) = .error escape := by
  obtain rfl := ofDescriptor_descriptor hv
  have hfield := entry?_single f raw
  cases hm : v.descriptor.fields.mapM fun g => (entry .patch [(f.name, raw)] g).map fun e => (g, e) with
  | error escape =>
    rw [escapes_single hd hf hm]
    simp only [check, checkEntries, hm, error_bind]
  | ok found =>
    have hgo := check_found hf hm
    obtain ⟨p, hp, hpe⟩ := mapM_ok_mem hm hf
    obtain ⟨e, he, rfl⟩ := map_ok.mp hpe
    have hentry := he
    cases hx : Rule.value f raw with
    | ok x =>
      simp only [entry, hfield, hx] at hentry
      cases hentry
      rw [violations_single hd hf hm he rfl] at hgo
      have hpass := checkEntries_ok (v := v) hgo
      exact ⟨_, hgo, lookup_of_mem (hpass.sublist.nodup hd.distinct)
        ((hpass.mem f.name x).mpr ⟨f, hf, rfl, .supplied raw hfield hx⟩)⟩
    | error stop =>
      cases stop with
      | refused cause =>
        simp only [entry, hfield, hx] at hentry
        cases hentry
        have hloud : (found.filterMap fun p => violation? p.1 p.2).isEmpty = false := by
          rw [List.isEmpty_eq_false_iff_exists_mem]
          exact ⟨⟨f.name, cause⟩, List.mem_filterMap.mpr ⟨_, hp, rfl⟩⟩
        exact ⟨_, hgo.trans (by rw [hloud]; rfl)⟩
      | escaped escape =>
        simp only [entry, hfield, hx] at hentry
        cases hentry

end Single

end Validator

end EntityStore
