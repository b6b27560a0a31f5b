import EntityStore.Proofs.Payloads

/-! # The two checks of a payload

A full payload and a patch are read entry by entry under the same rules. They differ in what they
make of a field that is left out, so what they report and what they keep differ there only. What a
patch keeps is in the form in which it is stored, so checking it again changes nothing.
-/
namespace EntityStore

/-! ## Order of the reports -/

/-- Violations in the order of the fields, those that concern no field at the end. -/
def Descriptor.ranked (d : Descriptor) (violations : List Violation) : List Violation :=
  (d.fieldNames.flatMap fun n => violations.filter (·.field = n)) ++
    violations.filter (·.field ∉ d.fieldNames)

/-- The report that a mandatory field is left out. -/
def Field.missing? (entries : List (String × Value)) (f : Field) : Option Violation :=
  if f.isMandatory ∧ Value.entry? entries f.name = none then some ⟨f.name, .missing⟩ else none

def Descriptor.missing (d : Descriptor) (entries : List (String × Value)) : List Violation :=
  d.fields.filterMap (Field.missing? entries)

/-- The violations that a check reports. -/
def Checked.violations : Checked → List Violation
  | .ok _ => []
  | .error violations => violations

/-- What the check of a full payload and the check of a patch with the same entries owe each
other. -/
structure Descriptor.Agrees (d : Descriptor) (entries : List (String × Value))
    (full patch : Checked) : Prop where
  reported : full.violations.Perm (d.missing entries ++ patch.violations)
  order : full.violations = d.ranked (d.missing entries ++ patch.violations)
  patch_order : patch.violations = d.ranked patch.violations
  supplied : ∀ values, full = .ok values →
    patch = .ok (values.filter fun p => (Value.entry? entries p.1).isSome)
  left_out : ∀ values, full = .ok values → ∀ k x, Value.entry? entries k = none →
    ((k, x) ∈ values ↔ ∃ f ∈ d.fields, f.name = k ∧
      ∃ y, f.storage.default = some y ∧ Validator.storedDefault f y = .ok x)

section Ranked

variable {α : Type} {name : α → String} {l : List α} {found : α → List Violation}

/-- The reports on one element among the reports on all of them. -/
theorem filter_of_name (hl : (l.map name).Nodup) (hfound : ∀ a ∈ l, ∀ x ∈ found a, x.field = name a)
    {a : α} (ha : a ∈ l) : (l.flatMap found).filter (·.field = name a) = found a := by
  induction l with
  | nil => cases ha
  | cons b l ih =>
    rw [List.map_cons, List.nodup_cons] at hl
    obtain ⟨hb, hl⟩ := hl
    rw [List.flatMap_cons, List.filter_append]
    rcases List.mem_cons.mp ha with rfl | ha
    · have hself : (found a).filter (·.field = name a) = found a := by
        rw [List.filter_eq_self]
        intro x hx
        simpa using hfound a (List.mem_cons_self ..) x hx
      have hrest : (l.flatMap found).filter (·.field = name a) = [] := by
        rw [List.filter_eq_nil_iff]
        intro x hx heq
        obtain ⟨c, hc, hx⟩ := List.mem_flatMap.mp hx
        have hname := hfound c (List.mem_cons_of_mem _ hc) x hx
        exact hb (List.mem_map.mpr ⟨c, hc, by rw [← hname]; simpa using heq⟩)
      rw [hself, hrest, List.append_nil]
    · have hne : name b ≠ name a := by
        intro h
        exact hb (h ▸ List.mem_map_of_mem ha)
      have hhead : (found b).filter (·.field = name a) = [] := by
        rw [List.filter_eq_nil_iff]
        intro x hx heq
        have hname := hfound b (List.mem_cons_self ..) x hx
        exact hne (by rw [← hname]; simpa using heq)
      rw [hhead, List.nil_append]
      exact ih hl (fun c hc => hfound c (List.mem_cons_of_mem _ hc)) ha

/-- Reports that come element by element, in two rounds, are ranked into one round. -/
theorem ranked_rounds {d : Descriptor} {more : α → List Violation} {strays : List Violation}
    (hd : d.fieldNames.Nodup) (hnames : l.map name = d.fieldNames)
    (hmore : ∀ a ∈ l, ∀ x ∈ more a, x.field = name a)
    (hfound : ∀ a ∈ l, ∀ x ∈ found a, x.field = name a)
    (hstrays : ∀ x ∈ strays, x.field ∉ d.fieldNames) :
    d.ranked (l.flatMap more ++ (l.flatMap found ++ strays)) =
      l.flatMap (fun a => more a ++ found a) ++ strays := by
  have hl : (l.map name).Nodup := hnames ▸ hd
  have hinside : ∀ {g : α → List Violation}, (∀ a ∈ l, ∀ x ∈ g a, x.field = name a) →
      (l.flatMap g).filter (·.field ∉ d.fieldNames) = [] := by
    intro g hg
    rw [List.filter_eq_nil_iff]
    intro x hx hout
    obtain ⟨a, ha, hx⟩ := List.mem_flatMap.mp hx
    have hin : x.field ∈ d.fieldNames := by
      rw [hg a ha x hx, ← hnames]
      exact List.mem_map_of_mem ha
    simp [hin] at hout
  have hin : ∀ a ∈ l, strays.filter (·.field = name a) = [] := by
    intro a ha
    rw [List.filter_eq_nil_iff]
    intro x hx heq
    apply hstrays x hx
    rw [← hnames, of_decide_eq_true heq]
    exact List.mem_map_of_mem ha
  have hout : strays.filter (·.field ∉ d.fieldNames) = strays := by
    rw [List.filter_eq_self]
    intro x hx
    simpa using hstrays x hx
  unfold Descriptor.ranked
  rw [List.filter_append, List.filter_append, hinside hmore, hinside hfound, hout, ← hnames,
    List.flatMap_map]
  refine congrArg₂ (· ++ ·) (List.flatMap_congr fun a ha => ?_) (by simp)
  rw [List.filter_append, List.filter_append, filter_of_name hl hmore ha,
    filter_of_name hl hfound ha, hin a ha, List.append_nil]

end Ranked

namespace Validator

variable {d : Descriptor} {v : Validator} {mode : PayloadMode} {entries : List (String × Value)}
  {f : Field} {e : Entry} {found : List (Field × Entry)}

/-! ## Reading and reporting -/

def readEntries (v : Validator) (mode : PayloadMode) (entries : List (String × Value)) :
    Except Escape (List (Field × Entry)) :=
  v.descriptor.fields.mapM fun f => (entry mode entries f).map fun e => (f, e)

/-- What a check reports of the entries that it read. -/
def complaints (v : Validator) (entries : List (String × Value)) (found : List (Field × Entry)) :
    List Violation :=
  found.filterMap (fun p => violation? p.1 p.2) ++ strays v.descriptor entries

/-- What a check answers on the entries that it read. -/
def answer (v : Validator) (mode : PayloadMode) (entries : List (String × Value))
    (found : List (Field × Entry)) : Checked :=
  if (v.complaints entries found).isEmpty then
    .ok (found.filterMap fun p => keep v.defaults mode p.1 p.2)
  else .error (v.complaints entries found)

theorem checkEntries_eq :
    v.checkEntries mode entries = (v.readEntries mode entries).map (v.answer mode entries) := rfl

theorem violations_answer : (v.answer mode entries found).violations = v.complaints entries found := by
  unfold answer
  split
  · rename_i h
    exact (List.isEmpty_iff.mp h).symm
  · rfl

theorem answer_ok {values : FieldValues} (h : v.answer mode entries found = .ok values) :
    v.complaints entries found = [] ∧
      values = found.filterMap fun p => keep v.defaults mode p.1 p.2 := by
  unfold answer at h
  split at h
  · rename_i hempty
    injection h with h
    exact ⟨List.isEmpty_iff.mp hempty, h.symm⟩
  · cases h

theorem violation_field {x : Violation} (h : violation? f e = some x) : x.field = f.name := by
  cases e with
  | refused cause =>
    cases h
    rfl
  | absent => cases h
  | stored y => cases h

theorem strays_field {x : Violation} (h : x ∈ strays d entries) : x.field ∉ d.fieldNames := by
  obtain ⟨p, hp, rfl⟩ := List.mem_map.mp h
  simpa using (List.mem_filter.mp hp).2

/-! ## A field that is left out -/

/-- What a full payload makes of the entry of a field: a mandatory one may not be left out. -/
def Entry.demanded (f : Field) : Entry → Entry
  | .absent => if f.isMandatory then .refused .missing else .absent
  | e => e

theorem entry_full (entries : List (String × Value)) (f : Field) :
    entry .full entries f = (entry .patch entries f).map (Entry.demanded f) := by
  cases hr : Value.entry? entries f.name with
  | none =>
    rw [entry_absent hr, entry_absent hr]
    simp [Except.map, Entry.demanded]
  | some raw =>
    simp only [entry, hr]
    cases Rule.value f raw with
    | ok x => rfl
    | error stop => cases stop <;> rfl

/-- The entry of a patch tells whether the payload holds something for the field. -/
theorem entry_patch (h : entry .patch entries f = .ok e) :
    Value.entry? entries f.name = none ∧ e = .absent ∨
      (Value.entry? entries f.name).isSome = true ∧ e ≠ .absent := by
  cases hr : Value.entry? entries f.name with
  | none =>
    rw [entry_absent hr] at h
    injection h with h
    exact .inl ⟨rfl, by simpa using h.symm⟩
  | some raw =>
    refine .inr ⟨rfl, ?_⟩
    rintro rfl
    simp only [entry, hr] at h
    split at h <;> cases h

theorem demanded_of_ne (h : e ≠ .absent) : e.demanded f = e := by
  cases e with
  | absent => exact absurd rfl h
  | stored x => rfl
  | refused cause => rfl

theorem readEntries_full :
    v.readEntries .full entries =
      (v.readEntries .patch entries).map (List.map fun p => (p.1, p.2.demanded p.1)) := by
  unfold readEntries
  rw [← mapM_map_result]
  apply mapM_congr
  intro f _
  rw [entry_full]
  cases entry .patch entries f <;> rfl

/-- A full payload is reported for what a patch is, and for being without a mandatory field. -/
theorem violation_demanded (h : entry .patch entries f = .ok e) :
    (violation? f (e.demanded f)).toList =
      (f.missing? entries).toList ++ (violation? f e).toList := by
  rcases entry_patch h with ⟨hnone, rfl⟩ | ⟨hsome, hne⟩
  · by_cases hm : f.isMandatory = true
    · simp [Entry.demanded, Field.missing?, violation?, hnone, hm]
    · simp [Entry.demanded, Field.missing?, violation?, hnone, hm]
  · have hmissing : f.missing? entries = none := by
      simp [Field.missing?, Option.isSome_iff_ne_none.mp hsome]
    rw [demanded_of_ne hne, hmissing]
    rfl

/-- Of what a full payload keeps for a field, a patch keeps what is supplied. -/
theorem keep_supplied {defaults : FieldValues} (h : entry .patch entries f = .ok e)
    (hfine : violation? f e = none) :
    keep defaults .patch f e = (keep defaults .full f (e.demanded f)).filter
      fun p => (Value.entry? entries p.1).isSome := by
  rcases entry_patch h with ⟨hnone, rfl⟩ | ⟨hsome, hne⟩
  · have hleft : keep defaults .patch f .absent = none := rfl
    rw [hleft, eq_comm, Option.filter_eq_none_iff]
    intro p hp
    rw [keep_name hp, hnone]
    simp
  · rw [demanded_of_ne hne]
    cases e with
    | absent => exact absurd rfl hne
    | refused cause => cases hfine
    | stored x => simp [keep, Option.filter_some, hsome]

/-! ## The two checks -/

theorem missing_found (hp : v.readEntries .patch entries = .ok found) :
    v.descriptor.missing entries = found.flatMap fun p => (p.1.missing? entries).toList := by
  rw [Descriptor.missing, ← found_names hp, List.filterMap_map, List.filterMap_eq_flatMap_toList]
  rfl

theorem complaints_patch : v.complaints entries found =
    found.flatMap (fun p => (violation? p.1 p.2).toList) ++ strays v.descriptor entries := by
  rw [complaints, List.filterMap_eq_flatMap_toList]

theorem complaints_full (hp : v.readEntries .patch entries = .ok found) :
    v.complaints entries (found.map fun p => (p.1, p.2.demanded p.1)) =
      found.flatMap (fun p => (p.1.missing? entries).toList ++ (violation? p.1 p.2).toList) ++
        strays v.descriptor entries := by
  rw [complaints, List.filterMap_map, List.filterMap_eq_flatMap_toList]
  refine congrArg (· ++ _) (List.flatMap_congr ?_)
  rintro ⟨f, e⟩ hfe
  exact violation_demanded ((mem_found hp).mp hfe).2

theorem ranked_found (hd : v.descriptor.fieldNames.Nodup)
    (hp : v.readEntries .patch entries = .ok found) {more : Field × Entry → List Violation}
    (hmore : ∀ p ∈ found, ∀ x ∈ more p, x.field = p.1.name) :
    v.descriptor.ranked (found.flatMap more ++ v.complaints entries found) =
      found.flatMap (fun p => more p ++ (violation? p.1 p.2).toList) ++
        strays v.descriptor entries := by
  rw [complaints_patch]
  have hnames : found.map (fun p : Field × Entry => p.1.name) = v.descriptor.fieldNames := by
    rw [Descriptor.fieldNames, ← found_names hp, List.map_map]
    rfl
  refine ranked_rounds hd hnames hmore ?_ ?_
  · intro p _ x hx
    exact violation_field (Option.mem_toList.mp hx)
  · intro x
    exact strays_field

/-- A full payload without a violation keeps what the patch keeps, and defaults. -/
theorem kept_supplied (hp : v.readEntries .patch entries = .ok found) {values : FieldValues}
    (h : v.answer .full entries (found.map fun p => (p.1, p.2.demanded p.1)) = .ok values) :
    v.answer .patch entries found =
      .ok (values.filter fun p => (Value.entry? entries p.1).isSome) := by
  obtain ⟨hnone, rfl⟩ := answer_ok h
  rw [complaints_full hp, List.append_eq_nil_iff, List.flatMap_eq_nil_iff] at hnone
  obtain ⟨hnone, hstrays⟩ := hnone
  have hfine : ∀ p ∈ found, violation? p.1 p.2 = none := by
    intro p hpf
    have hnil := (List.append_eq_nil_iff.mp (hnone p hpf)).2
    simpa using hnil
  have hquiet : v.complaints entries found = [] := by
    rw [complaints, hstrays, List.append_nil, List.filterMap_eq_nil_iff]
    exact hfine
  rw [answer, hquiet, List.filterMap_map, List.filter_filterMap]
  refine congrArg _ (List.filterMap_congr ?_)
  rintro ⟨f, e⟩ hfe
  exact keep_supplied ((mem_found hp).mp hfe).2 (hfine _ hfe)

theorem left_out_iff (hd : d.Accepted) (hv : ofDescriptor d = .ok v) {values : FieldValues}
    (h : v.check .full (.mapping entries) = .ok (.ok values)) {k : String} {x : Value}
    (hk : Value.entry? entries k = none) :
    (k, x) ∈ values ↔ ∃ f ∈ d.fields, f.name = k ∧
      ∃ y, f.storage.default = some y ∧ storedDefault f y = .ok x := by
  obtain rfl := ofDescriptor_descriptor hv
  rw [(checkEntries_ok h).mem]
  constructor
  · rintro ⟨f, hf, rfl, hgives⟩
    exact (defaults_mem hv).mp (mem_of_lookup ((gives_none hk).mp hgives).2)
  · rintro ⟨f, hf, rfl, y, hy, hx⟩
    obtain ⟨z, hz⟩ := exists_default hv hf hy
    obtain ⟨g, hg, hname, y', hy', hz'⟩ := (defaults_mem hv).mp (mem_of_lookup hz)
    obtain rfl := hd.field_eq hg hf hname
    rw [hy] at hy'
    cases hy'
    rw [hx] at hz'
    cases hz'
    exact ⟨g, hg, rfl, (gives_none hk).mpr ⟨rfl, hz⟩⟩

/-- The check of a full payload and the check of a patch end in the same way. What the one reports
is what the other reports and the mandatory fields that are left out; what the one keeps is what the
other keeps and the defaults of the fields that are left out. -/
theorem checks_agree (hd : d.Accepted) (hv : ofDescriptor d = .ok v)
    (entries : List (String × Value)) :
    match v.check .full (.mapping entries), v.check .patch (.mapping entries) with
    | .ok full, .ok patch => d.Agrees entries full patch
    | .error escape, .error escape' => escape = escape'
    | _, _ => False := by
  have hfull : v.check .full (.mapping entries) = _ := checkEntries_eq
  have hpatch : v.check .patch (.mapping entries) = _ := checkEntries_eq
  rw [readEntries_full] at hfull
  cases hp : v.readEntries .patch entries with
  | error escape =>
    rw [hp] at hfull hpatch
    rw [hfull, hpatch]
    rfl
  | ok found =>
    rw [hp] at hfull hpatch
    rw [hfull, hpatch]
    obtain rfl := ofDescriptor_descriptor hv
    have hmissing : ∀ p ∈ found, ∀ x ∈ (p.1.missing? entries).toList, x.field = p.1.name := by
      intro p _ x hx
      simp only [Field.missing?, Option.mem_toList] at hx
      split at hx <;> cases hx
      rfl
    refine ⟨?_, ?_, ?_, fun values hvalues => kept_supplied hp hvalues, ?_⟩
    · rw [violations_answer, violations_answer, complaints_full hp, missing_found hp,
        complaints_patch, ← List.append_assoc]
      exact (List.flatMap_append_perm found _ _).symm.append_right _
    · rw [violations_answer, violations_answer, complaints_full hp, missing_found hp,
        ranked_found hd.distinct hp hmissing]
    · have hnone : found.flatMap (fun _ => ([] : List Violation)) = [] := by simp
      rw [violations_answer]
      have hmore : ∀ p ∈ found, ∀ x ∈ (fun _ : Field × Entry => ([] : List Violation)) p,
          x.field = p.1.name := by simp
      have hrank := ranked_found hd.distinct hp hmore
      rw [hnone, List.nil_append] at hrank
      rw [hrank, complaints_patch]
      rfl
    · intro values hvalues k x hk
      exact left_out_iff hd hv (hfull.trans (congrArg Except.ok hvalues)) hk

/-- A visit, of which the number of guests must be told. -/
def visit : Descriptor where
  name := "visit"
  fields := [{ name := "guests", kind := .integer, required := true },
    { name := "note", kind := .shortText },
    { name := "paid", kind := .boolean, storage := { default := some (.bool false) } }]

theorem visit_checks_agree : visit.Accepted ∧
    ofDescriptor visit = .ok ⟨visit, [("paid", .bool false)]⟩ ∧
    visit.missing [("note", .text "late")] = [⟨"guests", .missing⟩] ∧
    visit.Agrees [("note", .text "late")] (.error [⟨"guests", .missing⟩])
      (.ok [("note", .text "late")]) := by
  have hd : visit.Accepted := by
    unfold Descriptor.Accepted
    rfl
  exact ⟨hd, rfl, rfl, checks_agree hd rfl [("note", .text "late")]⟩

/-! ## A patch that is checked again -/

/-- What a patch that passes keeps reads again as what was read first. -/
theorem entry_again (hd : v.descriptor.Accepted) {values : FieldValues}
    (h : Passes v .patch entries values) (hf : f ∈ v.descriptor.fields)
    (he : entry .patch entries f = .ok e) (hfine : violation? f e = none) :
    entry .patch values f = .ok e := by
  rcases entry_patch he with ⟨hnone, rfl⟩ | ⟨hsome, hne⟩
  · have hout : f.name ∉ values.map (·.1) := by
      intro hmem
      obtain ⟨⟨k, x⟩, hx, hk⟩ := List.mem_map.mp hmem
      obtain ⟨g, -, hname, hgives⟩ := (h.mem k x).mp hx
      have hg : Value.entry? entries g.name = none := by
        rw [hname, show k = f.name from hk, hnone]
      cases ((gives_none hg).mp hgives).1
    rw [entry_absent (Value.entry?_absent hout)]
    simp
  · cases e with
    | absent => exact absurd rfl hne
    | refused cause => cases hfine
    | stored x =>
      have hkeep : keep v.defaults .patch f (.stored x) = some (f.name, x) := rfl
      have hgives := ((keep_entry he hfine).mp hkeep).2
      have hx : (f.name, x) ∈ values := (h.mem f.name x).mpr ⟨f, hf, rfl, hgives⟩
      have hread := Value.entry?_of_mem (h.sublist.nodup hd.distinct) hx
      obtain ⟨raw, hraw⟩ := Option.isSome_iff_exists.mp hsome
      have hrule : Rule.value f x = .ok x := Rule.value_stable ((gives_some hraw).mp hgives)
      simp only [entry, hread, hrule]

/-- A value that a patch keeps is null where null was given, and else in the form of its kind. -/
theorem kept_form {values : FieldValues} (h : Passes v .patch entries values) {k : String}
    {x : Value} (hx : (k, x) ∈ values) : ∃ f ∈ v.descriptor.fields, f.name = k ∧
      (Value.entry? entries k = some .null ∧ x = .null ∨
        Value.entry? entries k ≠ some .null ∧ f.Passed x) := by
  obtain ⟨f, hf, rfl, hgives⟩ := (h.mem k x).mp hx
  refine ⟨f, hf, rfl, ?_⟩
  cases hgives with
  | default _ hfull _ => cases hfull
  | supplied raw hraw hpass =>
    rcases Rule.value_ok hpass with ⟨rfl, hnull, -⟩ | ⟨hne, hpassed⟩
    · exact .inl ⟨hraw, hnull⟩
    · refine .inr ⟨?_, hpassed⟩
      rw [hraw]
      exact fun heq => hne (Option.some.inj heq)

/-- What a patch keeps passes again as it is. -/
theorem patch_stable (hd : d.Accepted) (hv : ofDescriptor d = .ok v) {data : Value}
    {values : FieldValues} (h : v.check .patch data = .ok (.ok values)) :
    v.check .patch (.mapping values) = .ok (.ok values) ∧
      ∃ entries, data = .mapping entries ∧ ∀ k x, (k, x) ∈ values →
        ∃ f ∈ d.fields, f.name = k ∧
          (Value.entry? entries k = some .null ∧ x = .null ∨
            Value.entry? entries k ≠ some .null ∧ f.Passed x) := by
  obtain rfl := ofDescriptor_descriptor hv
  obtain ⟨entries, rfl, hpasses⟩ := check_ok h
  refine ⟨?_, entries, rfl, fun k x hx => kept_form hpasses hx⟩
  obtain ⟨found, hread, hanswer⟩ := map_ok.mp (checkEntries_eq.symm.trans h)
  obtain ⟨hnone, hvalues⟩ := answer_ok hanswer
  obtain ⟨hfine, -⟩ := List.append_eq_nil_iff.mp hnone
  have hagain : v.readEntries .patch values = .ok found := by
    rw [← hread]
    apply mapM_congr
    intro f hf
    obtain ⟨p, hp, hentry⟩ := mapM_ok_mem hread hf
    obtain ⟨e, he, rfl⟩ := map_ok.mp hentry
    rw [he, entry_again hd hpasses hf he (List.filterMap_eq_nil_iff.mp hfine _ hp)]
  have hstrays : strays v.descriptor values = [] := by
    rw [strays, List.map_eq_nil_iff, List.filter_eq_nil_iff]
    intro p hp
    have hname := hpasses.sublist.subset (List.mem_map_of_mem hp)
    simpa using hname
  have hquiet : v.complaints values found = [] := by rw [complaints, hfine, hstrays]; rfl
  have hok : v.answer .patch values found = .ok values := by
    rw [answer, hquiet]
    exact congrArg Except.ok hvalues.symm
  have hcheck : v.check .patch (.mapping values) = _ := checkEntries_eq
  rw [hcheck, hagain]
  exact congrArg Except.ok hok

/-- A number that is given as a text is kept as a number, and a null as a null. -/
theorem visit_stable : visit.Accepted ∧
    Validator.check ⟨visit, [("paid", .bool false)]⟩ .patch
      (.mapping [("note", .null), ("guests", .text "3")]) =
      .ok (.ok [("guests", .int 3), ("note", .null)]) ∧
    Validator.check ⟨visit, [("paid", .bool false)]⟩ .patch
      (.mapping [("guests", .int 3), ("note", .null)]) =
      .ok (.ok [("guests", .int 3), ("note", .null)]) := by
  have hd : visit.Accepted := by
    unfold Descriptor.Accepted
    rfl
  have h : Validator.check ⟨visit, [("paid", .bool false)]⟩ .patch
      (.mapping [("note", .null), ("guests", .text "3")]) =
      .ok (.ok [("guests", .int 3), ("note", .null)]) := rfl
  exact ⟨hd, h, (patch_stable hd rfl h).1⟩

end Validator

end EntityStore
