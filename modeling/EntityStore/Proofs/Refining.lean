import EntityStore.Proofs.Reporting

/-! # Predicates come last

The predicates of a field are asked once all other rules have passed a value. They are asked about
the form in which the value is stored, in their order, and none is asked after one that fails.
-/
namespace EntityStore

/-- The field without its predicates. -/
def Field.unrefined (f : Field) : Field := { f with rules := { f.rules with refine := [] } }

/-! ## Questions -/

/-- What a predicate was asked about. -/
abbrev Question := Refinement × Value

/-- A computation that notes down the questions it asks. -/
abbrev Noting := StateM (List Question)

namespace Rule

/-- Asks a predicate about a value. -/
def ask (r : Refinement) (x : Value) : Noting Verdict := do
  modify (· ++ [(r, x)])
  return r.predicate.ask x

/-- What the verdict of a predicate says of a value. -/
def judge (r : Refinement) : Verdict → Ruled Unit
  | .holds => .ok ()
  | .fails => Ruled.refuse (.refinement r.message)
  | .refuses m => Ruled.refuse (.predicateRefused m)
  | .asserts m => Ruled.refuse (.predicateAsserted m)
  | .breaks how => .error (.escaped (.predicate how))

/-- Asks one predicate after the other for as long as they hold. -/
def askAll (x : Value) : List Refinement → Noting (Ruled Unit)
  | [] => return .ok ()
  | r :: rest => do
    match judge r (← ask r x) with
    | .ok () => askAll x rest
    | .error stop => return .error stop

/-- The rules of a field, with a note of what its predicates are asked. -/
def valueNoting (f : Field) (v : Value) : Noting (Ruled Value) :=
  match v with
  | .null => return if !f.required && f.isNullable then .ok .null else Ruled.refuse .nullNotAllowed
  | v =>
    match builtIn f v with
    | .ok x => return (← askAll x f.rules.refine).map fun _ => x
    | .error stop => return .error stop

/-- The questions that are asked when a value is held against the rules of a field. -/
def questions (f : Field) (v : Value) : List Question := ((valueNoting f v).run []).2

variable {f : Field} {v x : Value} {r : Refinement} {noted : List Question}

theorem refine_eq : refine x r = judge r (r.predicate.ask x) := rfl

theorem askAll_cons {rest : List Refinement} : (askAll x (r :: rest)).run noted =
    match judge r (r.predicate.ask x) with
    | .ok () => (askAll x rest).run (noted ++ [(r, x)])
    | .error stop => (.error stop, noted ++ [(r, x)]) := by
  have h : (askAll x (r :: rest)).run noted =
      (match judge r (r.predicate.ask x) with
        | .ok () => askAll x rest
        | .error stop => return .error stop : Noting (Ruled Unit)).run (noted ++ [(r, x)]) := rfl
  rw [h]
  cases judge r (r.predicate.ask x) <;> rfl

/-- To note down the questions changes no verdict. -/
theorem askAll_verdict (l : List Refinement) :
    ((askAll x l).run noted).1 = l.forM (refine x) := by
  induction l generalizing noted with
  | nil => rfl
  | cons r rest ih =>
    have hcons : (r :: rest).forM (refine x) = refine x r >>= fun _ => rest.forM (refine x) := rfl
    rw [askAll_cons, hcons, refine_eq]
    cases judge r (r.predicate.ask x) with
    | error stop => rfl
    | ok _ => exact ih

theorem valueNoting_of_ne (hv : v ≠ .null) : (valueNoting f v).run [] =
    match builtIn f v with
    | .ok x => (((askAll x f.rules.refine).run []).1.map fun _ => x,
        ((askAll x f.rules.refine).run []).2)
    | .error stop => (.error stop, []) := by
  unfold valueNoting
  split
  · exact absurd rfl hv
  · cases builtIn f v <;> rfl

theorem value_of_ne (hv : v ≠ .null) : value f v = present f v := by
  unfold value
  split
  · exact absurd rfl hv
  · rfl

/-- The rules of a field answer the same whether or not their questions are noted down. -/
theorem valueNoting_answer : ((valueNoting f v).run []).1 = value f v := by
  by_cases hv : v = .null
  · subst hv
    rfl
  · rw [valueNoting_of_ne hv, value_of_ne hv, present]
    cases builtIn f v with
    | error stop => rfl
    | ok x =>
      simp only [askAll_verdict, ok_bind]
      cases f.rules.refine.forM (refine x) <;> rfl

/-! ## The order of the questions -/

/-- Predicates that hold are asked, and then the ones behind them. -/
theorem askAll_holds {before : List Refinement} (h : ∀ q ∈ before, q.predicate.ask x = .holds)
    (rest : List Refinement) (noted : List Question) :
    (askAll x (before ++ rest)).run noted =
      (askAll x rest).run (noted ++ before.map fun q => (q, x)) := by
  induction before generalizing noted with
  | nil => simp
  | cons q before ih =>
    have hq := h q (List.mem_cons_self ..)
    have hbefore := fun p hp => h p (List.mem_cons_of_mem _ hp)
    rw [List.cons_append, askAll_cons, hq]
    simp only [judge, ih hbefore, List.map_cons, List.append_assoc, List.singleton_append]

/-- No predicate is asked after one that fails. -/
theorem askAll_fails {rest : List Refinement} (h : r.predicate.ask x = .fails) :
    (askAll x (r :: rest)).run noted =
      (Ruled.refuse (.refinement r.message), noted ++ [(r, x)]) := by
  rw [askAll_cons, h]
  rfl

/-- Predicates that return either all hold, or there is a first one that fails. -/
theorem first_failure {l : List Refinement}
    (h : ∀ q ∈ l, q.predicate.ask x = .holds ∨ q.predicate.ask x = .fails) :
    (∀ q ∈ l, q.predicate.ask x = .holds) ∨ ∃ before r after, l = before ++ r :: after ∧
      (∀ q ∈ before, q.predicate.ask x = .holds) ∧ r.predicate.ask x = .fails := by
  induction l with
  | nil => exact .inl (by simp)
  | cons q l ih =>
    rcases h q (List.mem_cons_self ..) with hq | hq
    · rcases ih fun p hp => h p (List.mem_cons_of_mem _ hp) with hall | ⟨before, r, after, rfl, hb, hr⟩
      · exact .inl (List.forall_mem_cons.mpr ⟨hq, hall⟩)
      · exact .inr ⟨q :: before, r, after, rfl, List.forall_mem_cons.mpr ⟨hq, hb⟩, hr⟩
    · exact .inr ⟨[], q, l, rfl, by simp, hq⟩

theorem builtIn_unrefined : builtIn f.unrefined v = builtIn f v := rfl

theorem value_unrefined (hv : v ≠ .null) : value f.unrefined v = builtIn f v := by
  rw [value_of_ne hv, present, builtIn_unrefined]
  cases builtIn f v <;> rfl

theorem answer_of_noting {answer : Ruled Value} {asked : List Question}
    (h : (valueNoting f v).run [] = (answer, asked)) :
    value f v = answer ∧ questions f v = asked := by
  rw [← valueNoting_answer, questions, h]
  exact ⟨rfl, rfl⟩

section Present

variable (hv : v ≠ .null)

include hv

theorem refused_unasked {stop : Stop} (h : builtIn f v = .error stop) :
    value f v = .error stop ∧ questions f v = [] := by
  apply answer_of_noting
  rw [valueNoting_of_ne hv, h]

theorem passed_of_holds (h : builtIn f v = .ok x)
    (hall : ∀ r ∈ f.rules.refine, r.predicate.ask x = .holds) :
    value f v = .ok x ∧ questions f v = f.rules.refine.map fun r => (r, x) := by
  have hask := askAll_holds hall [] []
  rw [List.append_nil] at hask
  apply answer_of_noting
  rw [valueNoting_of_ne hv, h]
  simp only [hask]
  rfl

theorem refused_of_fails (h : builtIn f v = .ok x) {before after : List Refinement}
    (hsplit : f.rules.refine = before ++ r :: after)
    (hbefore : ∀ q ∈ before, q.predicate.ask x = .holds) (hr : r.predicate.ask x = .fails) :
    value f v = .error (.refused (.refinement r.message)) ∧
      questions f v = (before ++ [r]).map fun q => (q, x) := by
  have hask := askAll_holds hbefore (r :: after) []
  rw [askAll_fails hr, ← hsplit] at hask
  apply answer_of_noting
  rw [valueNoting_of_ne hv, h]
  simp only [hask, List.map_append]
  rfl

end Present

end Rule

/-! ## Checks -/

/-- What becomes of a value that the other rules of a field have passed as `x`: the predicates were
asked about `x` in their order, up to the first that fails. -/
inductive Field.Judged (f : Field) (raw x : Value) (checked : Checked) : Prop where
  | passes (hold : ∀ r ∈ f.rules.refine, r.predicate.ask x = .holds)
    (asked : Rule.questions f raw = f.rules.refine.map fun r => (r, x))
    (outcome : Rule.value f raw = .ok x)
    (silent : checked.violations.filter (·.field = f.name) = [])
    (kept : ∀ values, checked = .ok values → (f.name, x) ∈ values)
  | fails (before : List Refinement) (r : Refinement) (after : List Refinement)
    (split : f.rules.refine = before ++ r :: after)
    (hold : ∀ q ∈ before, q.predicate.ask x = .holds) (first : r.predicate.ask x = .fails)
    (asked : Rule.questions f raw = (before ++ [r]).map fun q => (q, x)) (cause : Refusal)
    (code : cause.code = "refinement") (message : cause.message = r.message)
    (outcome : Rule.value f raw = .error (.refused cause))
    (told : checked.violations.filter (·.field = f.name) = [⟨f.name, cause⟩])

/-- The predicates of a field have the last word on a value, and no word on one that the field
without them refuses. -/
structure Field.RefinesLast (f : Field) (raw : Value) (checked : Checked) : Prop where
  refused : ∀ cause, Rule.value f.unrefined raw = .error (.refused cause) →
    Rule.questions f raw = [] ∧ Rule.value f raw = .error (.refused cause) ∧
      checked.violations.filter (·.field = f.name) = [⟨f.name, cause⟩]
  passed : ∀ x, Rule.value f.unrefined raw = .ok x → f.Passed x ∧ f.Judged raw x checked

namespace Validator

variable {d : Descriptor} {v : Validator} {mode : PayloadMode} {entries : List (String × Value)}
  {f : Field} {e : Entry} {found : List (Field × Entry)}

/-- What is reported of one field. -/
theorem complaints_of_field (hd : v.descriptor.Accepted)
    (hread : v.readEntries mode entries = .ok found) (hfe : (f, e) ∈ found) :
    (v.complaints entries found).filter (·.field = f.name) = (violation? f e).toList := by
  have hnames : (found.map fun p => p.1.name).Nodup := by
    have h := hd.distinct
    rwa [Descriptor.fieldNames, ← found_names hread, List.map_map] at h
  have hown : (found.flatMap fun p => (violation? p.1 p.2).toList).filter (·.field = f.name) =
      (violation? f e).toList :=
    filter_of_name hnames (fun p _ x hx => violation_field (Option.mem_toList.mp hx)) hfe
  have hstrays : (strays v.descriptor entries).filter (·.field = f.name) = [] := by
    rw [List.filter_eq_nil_iff]
    intro x hx hname
    refine strays_field hx ?_
    rw [of_decide_eq_true hname]
    exact List.mem_map_of_mem ((mem_found hread).mp hfe).1
  rw [complaints, List.filterMap_eq_flatMap_toList, List.filter_append, hown, hstrays,
    List.append_nil]

/-- What a check makes of a value that a payload holds for a field. -/
theorem check_field (hd : d.Accepted) (hv : ofDescriptor d = .ok v) (hf : f ∈ d.fields)
    (hkeys : (entries.map (·.1)).Nodup) {raw : Value} (hraw : (f.name, raw) ∈ entries)
    {checked : Checked} (h : v.check mode (.mapping entries) = .ok checked) :
    (∃ cause, Rule.value f raw = .error (.refused cause) ∧
        checked.violations.filter (·.field = f.name) = [⟨f.name, cause⟩]) ∨
      ∃ x, Rule.value f raw = .ok x ∧ checked.violations.filter (·.field = f.name) = [] ∧
        ∀ values, checked = .ok values → (f.name, x) ∈ values := by
  obtain rfl := ofDescriptor_descriptor hv
  obtain ⟨found, hread, rfl⟩ := map_ok.mp (checkEntries_eq.symm.trans h)
  obtain ⟨p, hp, hentry⟩ := mapM_ok_mem hread hf
  obtain ⟨e, he, rfl⟩ := map_ok.mp hentry
  have hreport := complaints_of_field hd hread hp
  have hreads := Value.entry?_of_mem hkeys hraw
  rw [violations_answer]
  simp only [entry, hreads] at he
  split at he
  · rename_i x hx
    cases he
    refine .inr ⟨x, hx, hreport, fun values hvalues => ?_⟩
    rw [(answer_ok hvalues).2]
    exact List.mem_filterMap.mpr ⟨_, hp, rfl⟩
  · rename_i cause hc
    cases he
    exact .inl ⟨cause, hc, hreport⟩
  · cases he

/-- The predicates of a field are asked after all its other rules. A value that those refuse is
refused for the same cause, and no predicate is asked. Of one that they pass, the predicates are asked
in their order about the form in which it is stored; the first that fails is the one violation of the
field, and if none fails the value is kept in that form. -/
theorem refined_last (hd : d.Accepted) (hv : ofDescriptor d = .ok v) (hf : f ∈ d.fields)
    (hkeys : (entries.map (·.1)).Nodup) {raw : Value} (hraw : (f.name, raw) ∈ entries)
    (hne : raw ≠ .null)
    (hreturn : ∀ x, Rule.value f.unrefined raw = .ok x → ∀ r ∈ f.rules.refine,
      r.predicate.ask x = .holds ∨ r.predicate.ask x = .fails)
    {checked : Checked} (h : v.check mode (.mapping entries) = .ok checked) :
    f.RefinesLast raw checked := by
  have hcheck := check_field hd hv hf hkeys hraw h
  rw [Rule.value_unrefined hne] at hreturn
  constructor
  · intro cause hcause
    rw [Rule.value_unrefined hne] at hcause
    obtain ⟨hvalue, hquiet⟩ := Rule.refused_unasked hne hcause
    rcases hcheck with ⟨cause', hvalue', htold⟩ | ⟨x, hvalue', -⟩
    · rw [hvalue] at hvalue'
      cases hvalue'
      exact ⟨hquiet, hvalue, htold⟩
    · rw [hvalue] at hvalue'
      cases hvalue'
  · intro x hx
    rw [Rule.value_unrefined hne] at hx
    refine ⟨Rule.builtIn_ok hx, ?_⟩
    rcases Rule.first_failure (hreturn x hx) with hall | ⟨before, r, after, hsplit, hbefore, hr⟩
    · obtain ⟨hvalue, hasked⟩ := Rule.passed_of_holds hne hx hall
      rcases hcheck with ⟨cause, hvalue', -⟩ | ⟨x', hvalue', hsilent, hkept⟩
      · rw [hvalue] at hvalue'
        cases hvalue'
      · rw [hvalue] at hvalue'
        cases hvalue'
        exact .passes hall hasked hvalue hsilent hkept
    · obtain ⟨hvalue, hasked⟩ := Rule.refused_of_fails hne hx hsplit hbefore hr
      rcases hcheck with ⟨cause, hvalue', htold⟩ | ⟨x', hvalue', -⟩
      · rw [hvalue] at hvalue'
        cases hvalue'
        exact .fails before r after hsplit hbefore hr hasked _ rfl rfl hvalue htold
      · rw [hvalue] at hvalue'
        cases hvalue'

/-- A party, whose number of guests must be even and below ten. -/
def party : Descriptor where
  name := "party"
  fields := [{
    name := "guests"
    kind := .integer
    rules := { refine := [⟨⟨"even", Predicate.even⟩, "an even number"⟩,
      ⟨⟨"small", Predicate.small⟩, "fewer than ten"⟩] } }]

/-- Twelve guests, told as a text, are an even number, and too many. -/
theorem party_refined : party.Accepted ∧ ofDescriptor party = .ok ⟨party, []⟩ ∧
    Validator.check ⟨party, []⟩ .full (.mapping [("guests", .text "12")]) =
      .ok (.error [⟨"guests", .refinement "fewer than ten"⟩]) ∧
    ∀ f ∈ party.fields, f.RefinesLast (.text "12")
      (.error [⟨"guests", .refinement "fewer than ten"⟩]) := by
  have hd : party.Accepted := by
    unfold Descriptor.Accepted
    rfl
  have hcheck : Validator.check ⟨party, []⟩ .full (.mapping [("guests", .text "12")]) =
      .ok (.error [⟨"guests", .refinement "fewer than ten"⟩]) := rfl
  refine ⟨hd, rfl, hcheck, fun f hf => ?_⟩
  have hname : f.name = "guests" := by
    rw [List.mem_singleton.mp hf]
  have hreturn : ∀ x, Rule.value f.unrefined (.text "12") = .ok x → ∀ r ∈ f.rules.refine,
      r.predicate.ask x = .holds ∨ r.predicate.ask x = .fails := by
    rw [List.mem_singleton.mp hf]
    intro x hx
    have h12 : x = .int 12 := by
      cases hx
      rfl
    subst h12
    decide
  exact refined_last hd rfl hf (by decide) (by simp [hname]) (by simp) hreturn hcheck

end Validator

end EntityStore
