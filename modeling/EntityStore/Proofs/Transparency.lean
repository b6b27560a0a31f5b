import EntityStore.Artifacts
import EntityStore.Proofs.Accepted

/-! # What the caches let through

What is kept for one descriptor answers for every descriptor that is the same. So the caches cannot be
noticed exactly as long as descriptors that are the same are also checked, made and judged alike.
-/
namespace EntityStore

/-! ## Caches -/

namespace Cache

variable {α : Type} {c after : Cache α} {d k : Descriptor} {a : α}

/-- All that is kept was derived from its descriptor. -/
def Sound (c : Cache α) (P : Descriptor → α → Prop) : Prop := ∀ p ∈ c.kept, P p.1 p.2

theorem sound_empty (P : Descriptor → α → Prop) : Sound {} P := by simp [Sound]

/-- What answers for a descriptor was derived from one that is the same. -/
theorem Sound.answered {P : Descriptor → α → Prop} (h : c.Sound P) (hr : c.answer? d = some (a, after)) :
    (∃ k, k.same d = true ∧ P k a) ∧ after.Sound P := by
  obtain ⟨⟨k, x⟩, hfound, hpair⟩ := Option.map_eq_some_iff.mp hr
  cases hpair
  have hmem := List.mem_of_find?_eq_some hfound
  have hsame : k.same d = true := by simpa using List.find?_some hfound
  refine ⟨⟨k, hsame, h _ hmem⟩, fun p hp => ?_⟩
  rcases List.mem_cons.mp hp with rfl | hp
  · exact h _ hmem
  · exact h p (List.mem_of_mem_eraseP hp)

theorem Sound.add {P : Descriptor → α → Prop} (h : c.Sound P) (hd : P d a) : (c.add d a).Sound P := by
  intro p hp
  rcases List.mem_cons.mp (List.mem_of_mem_take hp) with rfl | hp
  · exact hd
  · exact h p hp

theorem answer?_empty (d : Descriptor) : ({} : Cache α).answer? d = none := rfl

/-- What was just kept answers for every descriptor that is the same. -/
theorem answer?_add (h : k.same d = true) :
    ∃ after, (({} : Cache α).add k a).answer? d = some (a, after) := by
  simp [Cache.answer?, Cache.add, capacity, h]

end Cache

/-! ## Outcomes -/

/-- A call that answers with something that is kept. -/
inductive Demand where
  | load (v : Value)
  | check (d : Descriptor)
  | schema (d : Descriptor)
  | validator (d : Descriptor)

/-- What can be seen of the answer of a call: whether it was accepted, the statements in each dialect,
the answer to each payload. -/
inductive Outcome where
  | accepted (r : Except Failure Unit)
  | rendered (r : Except Failure (Dialect → String))
  | judging (r : Except Failure (PayloadMode → Value → Except Escape Checked))

namespace Demand

def perform (kept : Artifacts) : Demand → Outcome × Artifacts
  | load v =>
    let (r, kept) := kept.load v
    (.accepted (r.map fun _ => ()), kept)
  | check d =>
    let (r, kept) := kept.check d
    (.accepted (r.map fun _ => ()), kept)
  | schema d =>
    let (r, kept) := kept.schema d
    (.rendered (r.map fun t dialect => t.render dialect), kept)
  | validator d =>
    let (r, kept) := kept.validator d
    (.judging (r.map Validator.check), kept)

/-- The outcomes of calls, one after another. -/
def outcomes : Artifacts → List Demand → List Outcome
  | _, [] => []
  | kept, call :: rest => (call.perform kept).1 :: outcomes (call.perform kept).2 rest

/-- The outcome of a call where nothing is kept. -/
def fresh (call : Demand) : Outcome := (call.perform {}).1

/-- The descriptor of a call, if there is one, is among some. -/
def Within (S : Descriptor → Prop) : Demand → Prop
  | load v => ∀ d, Load.descriptor v = .ok d → S d
  | check d | schema d | validator d => S d

end Demand

/-- Whatever is derived from the first descriptor could be derived from the second one. -/
structure Interchangeable (k d : Descriptor) : Prop where
  accepted : d.Accepted
  rendered : ∀ dialect, (TableSchema.ofDescriptor k).render dialect =
    (TableSchema.ofDescriptor d).render dialect
  judging : ∀ v, Validator.ofDescriptor k = .ok v →
    ∃ w, Validator.ofDescriptor d = .ok w ∧ v.check = w.check

/-! ## Descriptors without number forms -/

section Plain

theorem eq_of_sameOption {α : Type} {same : α → α → Bool} {a b : Option α}
    (h : sameOption same a b = true)
    (heq : ∀ x y, a = some x → b = some y → same x y = true → x = y) : a = b := by
  cases a with
  | none =>
    cases b with
    | none => rfl
    | some y => cases h
  | some x =>
    cases b with
    | none => cases h
    | some y => rw [heq x y rfl rfl h]

theorem eq_of_sameList {α : Type} {same : α → α → Bool} {as bs : List α}
    (h : sameList same as bs = true)
    (heq : ∀ x ∈ as, ∀ y ∈ bs, same x y = true → x = y) : as = bs := by
  induction as generalizing bs with
  | nil =>
    cases bs with
    | nil => rfl
    | cons b bs => cases h
  | cons a as ih =>
    cases bs with
    | nil => cases h
    | cons b bs =>
      rw [sameList, Bool.and_eq_true] at h
      have hhead := heq a (by simp) b (by simp) h.1
      have htail := ih h.2 fun x hx y hy =>
        heq x (List.mem_cons_of_mem _ hx) y (List.mem_cons_of_mem _ hy)
      rw [hhead, htail]

/-- A field whose numbers are integers, without refinements. -/
structure Field.Plain (f : Field) : Prop where
  minimum : ∀ b, f.rules.minimum = some b → ∃ n, b = .int n
  maximum : ∀ b, f.rules.maximum = some b → ∃ n, b = .int n
  default : ∀ x, f.storage.default = some x → (∃ n, x = .int n) ∨ ∃ s, x = .text s
  unrefined : f.rules.refine = []

theorem Bound.eq_of_same {a b : Bound} (ha : ∃ n, a = .int n) (hb : ∃ n, b = .int n)
    (h : a.same b = true) : a = b := by
  obtain ⟨m, rfl⟩ := ha
  obtain ⟨n, rfl⟩ := hb
  simpa [Bound.same] using h

theorem Default.eq_of_same {a b : Default} (ha : (∃ n, a = .int n) ∨ ∃ s, a = .text s)
    (hb : (∃ n, b = .int n) ∨ ∃ s, b = .text s) (h : a.same b = true) : a = b := by
  rcases ha with ⟨m, rfl⟩ | ⟨s, rfl⟩ <;> rcases hb with ⟨n, rfl⟩ | ⟨t, rfl⟩
  · simpa [Default.same, Default.bound?, Bound.same] using h
  · cases h
  · cases h
  · simpa [Default.same] using h

theorem Field.Plain.eq_of_same {f g : Field} (hf : f.Plain) (hg : g.Plain) (h : f.same g = true) :
    f = g := by
  obtain ⟨name, kind, required, rules, storage, label, description, placeholder⟩ := f
  obtain ⟨name', kind', required', rules', storage', label', description', placeholder'⟩ := g
  obtain ⟨minLength, maxLength, pattern, format, integerOnly, positive, least, most, options,
    refine⟩ := rules
  obtain ⟨minLength', maxLength', pattern', format', integerOnly', positive', least', most',
    options', refine'⟩ := rules'
  obtain ⟨type, length, precision, scale, nullable, unique, index, default⟩ := storage
  obtain ⟨type', length', precision', scale', nullable', unique', index', default'⟩ := storage'
  simp only [Field.same, Rules.same, Storage.same, Bool.and_eq_true, decide_eq_true_eq] at h
  obtain ⟨⟨⟨⟨⟨⟨⟨hname, hkind⟩, hrequired⟩, hrules⟩, hstorage⟩, hlabel⟩, hdescription⟩, hplace⟩ := h
  obtain ⟨⟨⟨⟨⟨⟨⟨⟨⟨hmin, hmax⟩, hpattern⟩, hformat⟩, hint⟩, hpos⟩, hleast⟩, hmost⟩, hoptions⟩, -⟩ :=
    hrules
  obtain ⟨⟨⟨⟨⟨⟨⟨htype, hlength⟩, hprecision⟩, hscale⟩, hnull⟩, hunique⟩, hindex⟩, hdefault⟩ := hstorage
  have hleast := eq_of_sameOption hleast fun x y hx hy =>
    Bound.eq_of_same (hf.minimum x hx) (hg.minimum y hy)
  have hmost := eq_of_sameOption hmost fun x y hx hy =>
    Bound.eq_of_same (hf.maximum x hx) (hg.maximum y hy)
  have hdefault := eq_of_sameOption hdefault fun x y hx hy =>
    Default.eq_of_same (hf.default x hx) (hg.default y hy)
  have hrefine : refine = refine' := hf.unrefined.trans hg.unrefined.symm
  subst_vars
  rfl

theorem Descriptor.eq_of_same {k d : Descriptor} (hk : ∀ f ∈ k.fields, f.Plain)
    (hd : ∀ f ∈ d.fields, f.Plain) (h : k.same d = true) : k = d := by
  obtain ⟨name, fields, title, description⟩ := k
  obtain ⟨name', fields', title', description'⟩ := d
  simp only [Descriptor.same, Bool.and_eq_true, decide_eq_true_eq] at h
  obtain ⟨⟨⟨hname, hfields⟩, htitle⟩, hdescription⟩ := h
  have hfields := eq_of_sameList hfields fun f hf g hg => (hk f hf).eq_of_same (hd g hg)
  subst_vars
  rfl

end Plain

namespace Artifacts

variable {S : Descriptor → Prop} {kept : Artifacts} {d : Descriptor}

/-- Whether a descriptor is accepted on its own. -/
def verdict (d : Descriptor) : Except Failure Unit :=
  match d.check with
  | .ok _ => .ok ()
  | .error e => .error e.failure

theorem verdict_ok_iff : verdict d = .ok () ↔ d.Accepted := by
  unfold verdict Descriptor.check Descriptor.Accepted
  rcases d.problems with flaw | _ | ⟨problem, problems⟩ <;> simp

/-- The table of a descriptor on its own, by its statements. -/
def texts (d : Descriptor) : Except Failure (Dialect → String) :=
  (verdict d).map fun _ dialect => (TableSchema.ofDescriptor d).render dialect

/-- The validator of a descriptor on its own, by its answers. -/
def judgement (d : Descriptor) : Except Failure (PayloadMode → Value → Except Escape Checked) := do
  verdict d
  match Validator.ofDescriptor d with
  | .ok v => .ok v.check
  | .error e => .error e.failure

/-- All that is kept was derived from accepted descriptors among some. -/
structure Sound (S : Descriptor → Prop) (kept : Artifacts) : Prop where
  checked : kept.checked.Sound fun k _ => S k ∧ k.Accepted
  schemas : kept.schemas.Sound fun k t => S k ∧ k.Accepted ∧ t = TableSchema.ofDescriptor k
  validators : kept.validators.Sound fun k v => S k ∧ k.Accepted ∧ Validator.ofDescriptor k = .ok v

theorem sound_empty (S : Descriptor → Prop) : Sound S {} :=
  ⟨Cache.sound_empty _, Cache.sound_empty _, Cache.sound_empty _⟩

section Step

variable (hS : ∀ k d, S k → S d → k.same d = true → k.Accepted → Interchangeable k d)
include hS

theorem Sound.check (h : Sound S kept) (hd : S d) :
    ((kept.check d).1.map fun _ => ()) = verdict d ∧ Sound S (kept.check d).2 := by
  unfold Artifacts.check
  cases hr : kept.checked.answer? d with
  | some hit =>
    obtain ⟨⟨k, hsame, hk, haccepted⟩, hafter⟩ := h.checked.answered hr
    have haccepted := (hS k d hk hd hsame haccepted).accepted
    exact ⟨(verdict_ok_iff.mpr haccepted).symm, hafter, h.schemas, h.validators⟩
  | none =>
    cases hc : d.check with
    | error e => exact ⟨by simp [verdict, hc, Except.map], h⟩
    | ok accepted =>
      have hverdict : verdict d = .ok () := by simp [verdict, hc]
      refine ⟨hverdict.symm, ?_, h.schemas, h.validators⟩
      exact h.checked.add ⟨hd, verdict_ok_iff.mp hverdict⟩

theorem Sound.schema (h : Sound S kept) (hd : S d) :
    ((kept.schema d).1.map fun t dialect => t.render dialect) = texts d ∧
      Sound S (kept.schema d).2 := by
  unfold Artifacts.schema
  cases hr : kept.schemas.answer? d with
  | some hit =>
    obtain ⟨⟨k, hsame, hk, haccepted, ht⟩, hafter⟩ := h.schemas.answered hr
    have halike := hS k d hk hd hsame haccepted
    refine ⟨?_, h.checked, hafter, h.validators⟩
    simp only [texts, verdict_ok_iff.mpr halike.accepted, ht, Except.map]
    exact congrArg Except.ok (funext halike.rendered)
  | none =>
    obtain ⟨hverdict, hchecked⟩ := h.check hS hd
    rcases hc : kept.check d with ⟨e | accepted, checked⟩ <;> rw [hc] at hverdict hchecked
    · exact ⟨by simp [texts, ← hverdict, Except.map], hchecked⟩
    · refine ⟨by simp [texts, ← hverdict, Except.map], hchecked.checked, ?_, hchecked.validators⟩
      exact hchecked.schemas.add ⟨hd, verdict_ok_iff.mp hverdict.symm, rfl⟩

theorem Sound.validator (h : Sound S kept) (hd : S d) :
    ((kept.validator d).1.map Validator.check) = judgement d ∧ Sound S (kept.validator d).2 := by
  unfold Artifacts.validator
  cases hr : kept.validators.answer? d with
  | some hit =>
    obtain ⟨⟨k, hsame, hk, haccepted, hv⟩, hafter⟩ := h.validators.answered hr
    have halike := hS k d hk hd hsame haccepted
    obtain ⟨w, hw, hcheck⟩ := halike.judging _ hv
    refine ⟨?_, h.checked, h.schemas, hafter⟩
    simp [judgement, verdict_ok_iff.mpr halike.accepted, hw, hcheck, Except.map, bind, Except.bind]
  | none =>
    obtain ⟨hverdict, hchecked⟩ := h.check hS hd
    rcases hc : kept.check d with ⟨e | accepted, checked⟩ <;> rw [hc] at hverdict hchecked
    · exact ⟨by simp [judgement, ← hverdict, Except.map, bind, Except.bind], hchecked⟩
    · cases hv : Validator.ofDescriptor d with
      | error e =>
        exact ⟨by simp [judgement, ← hverdict, hv, Except.map, bind, Except.bind], hchecked⟩
      | ok v =>
        refine ⟨by simp [judgement, ← hverdict, hv, Except.map, bind, Except.bind],
          hchecked.checked, hchecked.schemas, ?_⟩
        exact hchecked.validators.add ⟨hd, verdict_ok_iff.mp hverdict.symm, hv⟩

/-- One call answers as if nothing were kept, and keeps nothing that would not. -/
theorem Sound.perform (h : Sound S kept) {call : Demand} (hc : call.Within S) :
    (call.perform kept).1 = call.fresh ∧ Sound S (call.perform kept).2 := by
  have hnone := sound_empty S
  unfold Demand.fresh
  cases call with
  | load v =>
    simp only [Demand.perform, Artifacts.load]
    cases hv : Load.descriptor v with
    | error problems => exact ⟨rfl, h⟩
    | ok d =>
      obtain ⟨hanswer, hafter⟩ := h.check hS (hc d hv)
      exact ⟨congrArg Outcome.accepted (hanswer.trans (hnone.check hS (hc d hv)).1.symm), hafter⟩
  | check d =>
    obtain ⟨hanswer, hafter⟩ := h.check hS hc
    exact ⟨congrArg Outcome.accepted (hanswer.trans (hnone.check hS hc).1.symm), hafter⟩
  | schema d =>
    obtain ⟨hanswer, hafter⟩ := h.schema hS hc
    exact ⟨congrArg Outcome.rendered (hanswer.trans (hnone.schema hS hc).1.symm), hafter⟩
  | validator d =>
    obtain ⟨hanswer, hafter⟩ := h.validator hS hc
    exact ⟨congrArg Outcome.judging (hanswer.trans (hnone.validator hS hc).1.symm), hafter⟩

theorem Sound.outcomes (h : Sound S kept) {history : List Demand}
    (hc : ∀ call ∈ history, call.Within S) :
    Demand.outcomes kept history = history.map Demand.fresh := by
  induction history generalizing kept with
  | nil => rfl
  | cons call rest ih =>
    obtain ⟨hanswer, hafter⟩ := h.perform hS (hc call (List.mem_cons_self ..))
    have hrest := ih hafter fun call hmem => hc call (List.mem_cons_of_mem _ hmem)
    simp only [Demand.outcomes, List.map_cons, hanswer, hrest]

end Step

/-! ## Two calls -/

section Pair

variable {k : Descriptor}

theorem interchangeable_self (hd : d.Accepted) : Interchangeable d d :=
  ⟨hd, fun _ => rfl, fun v hv => ⟨v, hv, rfl⟩⟩

/-- What a call answers on its own. -/
theorem fresh_eq (d : Descriptor) : (Demand.check d).fresh = .accepted (verdict d) ∧
    (Demand.schema d).fresh = .rendered (texts d) ∧
    (Demand.validator d).fresh = .judging (judgement d) := by
  have hself : ∀ j e, j = d → e = d → j.same e = true → j.Accepted → Interchangeable j e := by
    rintro _ _ rfl rfl - haccepted
    exact interchangeable_self haccepted
  have hnone := sound_empty (· = d)
  exact ⟨congrArg Outcome.accepted (hnone.check hself rfl).1,
    congrArg Outcome.rendered (hnone.schema hself rfl).1,
    congrArg Outcome.judging (hnone.validator hself rfl).1⟩

theorem check_of_accepted (hk : k.Accepted) : k.check = .ok k := by
  unfold Descriptor.check
  rw [hk]

/-- After a call for one descriptor, a call for one that is the same gets the answer of the first. -/
theorem answered_alike (hk : k.Accepted) (hsame : k.same d = true) :
    (((Demand.check d).perform ((Demand.check k).perform {}).2).1 = .accepted (.ok ())) ∧
    (((Demand.schema d).perform ((Demand.schema k).perform {}).2).1 =
      .rendered (.ok fun dialect => (TableSchema.ofDescriptor k).render dialect)) ∧
    ∀ v, Validator.ofDescriptor k = .ok v →
      ((Demand.validator d).perform ((Demand.validator k).perform {}).2).1 =
        .judging (.ok v.check) := by
  have hc := check_of_accepted hk
  refine ⟨?_, ?_, fun v hv => ?_⟩
  · obtain ⟨after, hr⟩ := Cache.answer?_add (a := k) hsame
    simp only [Demand.perform, Artifacts.check, Cache.answer?_empty, hc, hr]
    rfl
  · obtain ⟨after, hr⟩ := Cache.answer?_add (a := TableSchema.ofDescriptor k) hsame
    simp only [Demand.perform, Artifacts.schema, Artifacts.check, Cache.answer?_empty, hc, hr]
    rfl
  · obtain ⟨after, hr⟩ := Cache.answer?_add (a := v) hsame
    simp only [Demand.perform, Artifacts.validator, Artifacts.check, Cache.answer?_empty, hc, hv, hr]
    rfl

end Pair

/-- The caches cannot be noticed by calls for some descriptors, whatever the history, exactly if those
that are the same can be taken for each other. -/
theorem transparent_iff (S : Descriptor → Prop) :
    (∀ history : List Demand, (∀ call ∈ history, call.Within S) →
      Demand.outcomes {} history = history.map Demand.fresh) ↔
    ∀ k d, S k → S d → k.same d = true → k.Accepted → Interchangeable k d := by
  constructor
  · -- two calls are enough to tell two descriptors apart
    intro h k d hk hd hsame haccepted
    obtain ⟨hcheck, hschema, hvalidator⟩ := answered_alike haccepted hsame
    obtain ⟨hfreshCheck, hfreshSchema, hfreshValidator⟩ := fresh_eq d
    have hpair : ∀ first second : Demand, first.Within S → second.Within S →
        (second.perform (first.perform {}).2).1 = second.fresh := by
      intro first second hfirst hsecond
      have hboth := h [first, second] (by simp [hfirst, hsecond])
      simp only [Demand.outcomes, List.map_cons, List.map_nil, List.cons.injEq] at hboth
      exact hboth.2.1
    have hverdict := hpair (.check k) (.check d) hk hd
    rw [hcheck, hfreshCheck] at hverdict
    have haccepted' : d.Accepted := verdict_ok_iff.mp (Outcome.accepted.inj hverdict).symm
    refine ⟨haccepted', fun dialect => ?_, fun v hv => ?_⟩
    · have htexts := hpair (.schema k) (.schema d) hk hd
      rw [hschema, hfreshSchema, texts, verdict_ok_iff.mpr haccepted'] at htexts
      exact congrFun (Except.ok.inj (Outcome.rendered.inj htexts)) dialect
    · have hjudged := hpair (.validator k) (.validator d) hk hd
      rw [hvalidator v hv, hfreshValidator, judgement, verdict_ok_iff.mpr haccepted'] at hjudged
      have hjudged := Outcome.judging.inj hjudged
      cases hw : Validator.ofDescriptor d with
      | error e =>
        rw [hw] at hjudged
        cases hjudged
      | ok w =>
        rw [hw] at hjudged
        exact ⟨w, rfl, Except.ok.inj hjudged⟩
  · intro hS history hc
    exact (sound_empty S).outcomes hS hc

/-- Descriptors whose numbers are integers never meet another one in a cache. -/
theorem outcomes_plain {history : List Demand}
    (h : ∀ call ∈ history, call.Within fun d => ∀ f ∈ d.fields, f.Plain) :
    Demand.outcomes {} history = history.map Demand.fresh := by
  refine (sound_empty _).outcomes ?_ h
  intro k d hk hd hsame haccepted
  rw [← Descriptor.eq_of_same hk hd hsame]
  exact interchangeable_self haccepted

/-- An entity with one integer, which is something else unless it is given. -/
def counted (standard : Value) : Value :=
  .mapping [("name", .text "t"), ("fields", .list [.mapping [("name", .text "n"),
    ("kind", .text "integer"), ("storage", .mapping [("default", standard)])]])]

/-- Truth is no integer, and passes for the one that was accepted before. -/
theorem truth_passes :
    Demand.outcomes {} [.load (counted (.int 1)), .load (counted (.bool true))] =
      [.accepted (.ok ()), .accepted (.ok ())] ∧
    (Demand.load (counted (.bool true))).fresh = .accepted (.error (.descriptor "t"
      ["field 'n': default True does not match kind integer"])) ∧
    Demand.outcomes {} [.load (counted (.int 1)), .load (counted (.bool true))] ≠
      [.load (counted (.int 1)), .load (counted (.bool true))].map Demand.fresh := by
  have hkept : Demand.outcomes {} [.load (counted (.int 1)), .load (counted (.bool true))] =
      [.accepted (.ok ()), .accepted (.ok ())] := rfl
  have hfresh : (Demand.load (counted (.bool true))).fresh = .accepted (.error (.descriptor "t"
      ["field 'n': default True does not match kind integer"])) := rfl
  refine ⟨hkept, hfresh, ?_⟩
  rw [hkept, List.map_cons, List.map_cons, hfresh]
  simp

end Artifacts

end EntityStore
