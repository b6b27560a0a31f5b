import EntityStore.Proofs.Checking

/-! # What a check reports

A report lists each key that offends once: first the fields that lack a value or have one that their
rules refuse, in the order of the descriptor, then the keys that name no field, in the order of the
payload. A payload passes exactly if there is nothing to report.
-/
namespace EntityStore

/-! ## Offences -/

/-- How a payload offends against a field: a full payload lacks a value that the field must have, or
the rules of the field refuse the value that is there. -/
inductive Field.Offends (f : Field) (mode : PayloadMode) (entries : List (String × Value)) :
    Refusal → Prop where
  | missing (full : mode = .full) (required : f.required = true)
    (bare : f.storage.default = none) (absent : f.name ∉ entries.map (·.1)) :
    f.Offends mode entries .missing
  | refused (raw : Value) (supplied : (f.name, raw) ∈ entries) (cause : Refusal)
    (refuses : Rule.value f raw = .error (.refused cause)) : f.Offends mode entries cause

/-- The code under which a key that names no field is reported. -/
def strayCode (key : String) : String :=
  if key ∈ implicitColumns then "read_only" else "unknown_field"

/-- A report in its two parts: what it says of the fields, and what it says of other keys. -/
structure Descriptor.Reports (d : Descriptor) (mode : PayloadMode)
    (entries : List (String × Value)) (own strays : List Violation) : Prop where
  once : ((own ++ strays).map (·.field)).Nodup
  order : (own.map (·.field)).Sublist d.fieldNames
  own : ∀ x, x ∈ own ↔ ∃ f ∈ d.fields, x.field = f.name ∧ f.Offends mode entries x.cause
  strays : strays.map (fun x => (x.field, x.cause.code)) =
    ((entries.map (·.1)).filter (· ∉ d.fieldNames)).map fun k => (k, strayCode k)

theorem strayCause_code (key : String) : (Validator.strayCause key).code = strayCode key := by
  unfold Validator.strayCause strayCode
  by_cases h : key ∈ implicitColumns
  · simp [h, Refusal.code]
  · simp [h, Refusal.code]

namespace Validator

variable {d : Descriptor} {v : Validator} {mode : PayloadMode} {entries : List (String × Value)}
  {f : Field} {found : List (Field × Entry)}

/-! ## One field -/

/-- The entry of a field is refused where the payload offends against the field. -/
theorem entry_refused_iff (hkeys : (entries.map (·.1)).Nodup) {cause : Refusal} :
    entry mode entries f = .ok (.refused cause) ↔ f.Offends mode entries cause := by
  cases hr : Value.entry? entries f.name with
  | none =>
    have habsent := Value.entry?_none_iff.mp hr
    rw [entry_absent hr]
    constructor
    · intro h
      injection h with h
      split at h
      · rename_i hm
        cases h
        obtain ⟨hfull, hm⟩ := hm
        simp only [Field.isMandatory, Field.hasDefault, Bool.and_eq_true, Bool.not_eq_true',
          Option.isSome_eq_false_iff, Option.isNone_iff_eq_none] at hm
        exact .missing hfull hm.1 hm.2 habsent
      · cases h
    · rintro (⟨hfull, hrequired, hbare, -⟩ | ⟨raw, hraw, -, -⟩)
      · simp [hfull, Field.isMandatory, Field.hasDefault, hrequired, hbare]
      · exact absurd (List.mem_map_of_mem hraw) habsent
  | some raw =>
    have hmem := Value.mem_of_entry hr
    simp only [entry, hr]
    constructor
    · intro h
      split at h
      · cases h
      · rename_i cause' hc
        cases h
        exact .refused raw hmem cause hc
      · cases h
    · rintro (⟨-, -, -, habsent⟩ | ⟨raw', hraw', _, hc⟩)
      · exact absurd (List.mem_map_of_mem hmem) habsent
      · have heq : raw' = raw := by
          have := Value.entry?_of_mem hkeys hraw'
          rw [hr] at this
          exact (Option.some.inj this).symm
        subst heq
        rw [hc]

theorem violation_some {e : Entry} {x : Violation} :
    violation? f e = some x ↔ e = .refused x.cause ∧ x.field = f.name := by
  cases e with
  | refused cause =>
    constructor
    · rintro ⟨⟩
      exact ⟨rfl, rfl⟩
    · rintro ⟨⟨⟩, hname⟩
      simp [violation?, ← hname]
  | absent => simp [violation?]
  | stored y => simp [violation?]

/-! ## The report -/

/-- What is said of fields, on the entries that were read. -/
theorem mem_own (hkeys : (entries.map (·.1)).Nodup)
    (hread : v.readEntries mode entries = .ok found) {x : Violation} :
    x ∈ found.filterMap (fun p => violation? p.1 p.2) ↔
      ∃ f ∈ v.descriptor.fields, x.field = f.name ∧ f.Offends mode entries x.cause := by
  rw [List.mem_filterMap]
  constructor
  · rintro ⟨⟨f, e⟩, hfe, hx⟩
    obtain ⟨hf, he⟩ := (mem_found hread).mp hfe
    obtain ⟨rfl, hname⟩ := violation_some.mp hx
    exact ⟨f, hf, hname, (entry_refused_iff hkeys).mp he⟩
  · rintro ⟨f, hf, hname, hoffends⟩
    have he := (entry_refused_iff hkeys).mpr hoffends
    exact ⟨(f, .refused x.cause), (mem_found hread).mpr ⟨hf, he⟩, violation_some.mpr ⟨rfl, hname⟩⟩

theorem own_order (hread : v.readEntries mode entries = .ok found) :
    ((found.filterMap fun p => violation? p.1 p.2).map (·.field)).Sublist
      v.descriptor.fieldNames := by
  rw [Descriptor.fieldNames, ← found_names hread, List.map_map]
  exact filterMap_sublist (fun _ _ => violation_field) found

theorem strays_told : (strays d entries).map (fun x => (x.field, x.cause.code)) =
    ((entries.map (·.1)).filter (· ∉ d.fieldNames)).map fun k => (k, strayCode k) := by
  rw [strays, List.map_map, List.filter_map, List.map_map]
  refine congrArg₂ List.map ?_ ?_
  · funext p
    simp [strayCause_code]
  · refine List.filter_congr ?_
    intro p _
    simp

theorem strays_keys : (strays d entries).map (·.field) =
    (entries.map (·.1)).filter (· ∉ d.fieldNames) := by
  have h := congrArg (List.map Prod.fst) (@strays_told d entries)
  rwa [List.map_map, List.map_map, show (Prod.fst ∘ fun k => (k, strayCode k)) = id from rfl,
    List.map_id] at h

/-- A check reports every offence and nothing else: each key once, the fields before the other keys,
those in the order of the descriptor and these in the order of the payload. The payload passes
exactly if the report is empty. -/
theorem report_exact (hd : d.Accepted) (hv : ofDescriptor d = .ok v)
    (hkeys : (entries.map (·.1)).Nodup) {checked : Checked}
    (h : v.check mode (.mapping entries) = .ok checked) :
    ∃ own strays, checked.violations = own ++ strays ∧ d.Reports mode entries own strays ∧
      ((∃ values, checked = .ok values) ↔ own ++ strays = []) := by
  obtain rfl := ofDescriptor_descriptor hv
  obtain ⟨found, hread, rfl⟩ := map_ok.mp (checkEntries_eq.symm.trans h)
  have hreport := @violations_answer v mode entries found
  refine ⟨_, strays v.descriptor entries, hreport, ?_, ?_⟩
  · refine ⟨?_, own_order hread, fun x => mem_own hkeys hread, strays_told⟩
    rw [List.map_append, strays_keys, List.nodup_append']
    refine ⟨(own_order hread).nodup hd.distinct, hkeys.filter _, ?_⟩
    intro k hown hstray
    have hout := (List.mem_filter.mp hstray).2
    exact of_decide_eq_true hout ((own_order hread).subset hown)
  · rw [← complaints, answer]
    cases v.complaints entries found with
    | nil => simp
    | cons x rest => simp

/-- A full payload that lacks a field, gives one a value of another kind, and has two keys that name
no field, of which the store keeps one to itself. -/
theorem visit_report : visit.Accepted ∧ ofDescriptor visit = .ok ⟨visit, [("paid", .bool false)]⟩ ∧
    Validator.check ⟨visit, [("paid", .bool false)]⟩ .full
      (.mapping [("field_0", .int 3), ("note", .int 1), ("id", .null)]) =
      .ok (.error [⟨"guests", .missing⟩, ⟨"note", .notText⟩, ⟨"field_0", .unknownField⟩,
        ⟨"id", .readOnly⟩]) ∧
    ∃ own strays, [⟨"guests", .missing⟩, ⟨"note", .notText⟩, ⟨"field_0", .unknownField⟩,
      ⟨"id", .readOnly⟩] = own ++ strays ∧
      visit.Reports .full [("field_0", .int 3), ("note", .int 1), ("id", .null)] own strays := by
  have hd : visit.Accepted := by
    unfold Descriptor.Accepted
    rfl
  have hv : ofDescriptor visit = .ok ⟨visit, [("paid", .bool false)]⟩ := rfl
  have hcheck : Validator.check ⟨visit, [("paid", .bool false)]⟩ .full
      (.mapping [("field_0", .int 3), ("note", .int 1), ("id", .null)]) =
      .ok (.error [⟨"guests", .missing⟩, ⟨"note", .notText⟩, ⟨"field_0", .unknownField⟩,
        ⟨"id", .readOnly⟩]) := rfl
  obtain ⟨own, strays, hreport, hreports, -⟩ := report_exact hd hv (by decide) hcheck
  exact ⟨hd, hv, hcheck, own, strays, hreport, hreports⟩

end Validator

end EntityStore
