import EntityStore.Artifacts
import EntityStore.Command.Report
import EntityStore.Proofs.Encryption
import EntityStore.Proofs.JsonValue
import EntityStore.Proofs.Transparency

/-!
# Dumps load

A dump gives every attribute in the form that its reader reads without change: kinds and column
types as their words, bounds and defaults in their own forms, missing ones as null. So what was read
from any mapping is read from its dump again, whatever forms the mapping gave it in.
-/

namespace EntityStore

open Gathered Reading

/-! ## Attributes -/

section Attributes

variable {α β : Type} {read : Value → Gathered α} {write : α → Value} {entries : Entries}
  {key : String} {v : Value}

theorem Gathered.barring_ok {x : Gathered α} {more : List Problem} {a : α} :
    x.barring more = .ok a ↔ x = .ok a ∧ more = [] := by
  cases more with
  | nil => simp [barring]
  | cons p more => cases x <;> simp [barring]

theorem nullable_orNull {o : Option α} (hread : ∀ a ∈ o, read (write a) = .ok a)
    (hwrite : ∀ a, write a ≠ .null) : nullable read (Dump.orNull write o) = .ok o := by
  cases o with
  | none => rfl
  | some a =>
    rw [Dump.orNull, nullable, hread a rfl]
    · rfl
    · exact hwrite a

theorem items_map {as : List α} (hread : ∀ a ∈ as, read (write a) = .ok a) (i : Nat) :
    items read i (as.map write) = .ok as := by
  induction as generalizing i with
  | nil => rfl
  | cons a as ih =>
    rw [List.map_cons, items, hread a (by simp), ih (fun b hb => hread b (by simp [hb]))]
    rfl

theorem tuple_map {as : List α} (hread : ∀ a ∈ as, read (write a) = .ok a) :
    tuple read (.list (as.map write)) = .ok as := items_map hread 0

theorem word_word {words : List String} {ofWord? : String → Option α} {w : String} {a : α}
    (h : ofWord? w = some a) : word words ofWord? (.text w) = .ok a := by
  simp [word, Coercion.textLike?, h]

theorem optional_written {absent a : α} (hkeys : (entries.map (·.1)).Nodup)
    (hmem : (key, v) ∈ entries) (hread : read v = .ok a) :
    optional entries key absent read = .ok a := by
  rw [optional_present (Value.entry?_of_mem hkeys hmem), hread]

theorem mandatory_written {a : α} (hkeys : (entries.map (·.1)).Nodup)
    (hmem : (key, v) ∈ entries) (hread : read v = .ok a) :
    mandatory entries key read = .ok a := by
  rw [mandatory, Value.entry?_of_mem hkeys hmem]
  simp [hread, within]

theorem and_written {f : Gathered (α → β)} {g : α → β} {x : Gathered α} {a : α} (hf : f = .ok g)
    (hx : x = .ok a) : f.and x = .ok (g a) := by
  rw [hf, hx]
  rfl

theorem undeclared_nil {known : List String} (h : entries.map (·.1) = known) :
    undeclared known entries = [] := by
  subst h
  simp only [undeclared, List.map_eq_nil_iff, List.filter_eq_nil_iff]
  intro entry hentry
  simpa using ⟨entry.2, hentry⟩

theorem barring_written {x : Gathered α} {a : α} {known : List String} (hx : x = .ok a)
    (h : entries.map (·.1) = known) : x.barring (undeclared known entries) = .ok a :=
  Gathered.barring_ok.mpr ⟨hx, undeclared_nil h⟩

end Attributes

/-! ## Parts of a descriptor -/

namespace Load

theorem bound_toValue (b : Bound) : bound b.toValue = .ok b := by
  cases b <;> rfl

theorem default_toValue (d : Default) : default d.toValue = .ok d := by
  cases d <;> rfl

theorem flag_bool (b : Bool) : flag (.bool b) = .ok b := rfl

theorem text_text (s : String) : text (.text s) = .ok s := rfl

theorem natural_natural (n : Nat) : natural (Dump.natural n) = .ok n := by
  have hn : ¬ (n : Int) < 0 := by omega
  simp only [natural, Dump.natural, Coercion.integer, Except.bind, hn, if_false]
  rfl

theorem positive_natural {n : Nat} (h : 0 < n) : positive (Dump.natural n) = .ok n := by
  have hn : ¬ (n : Int) ≤ 0 := by omega
  simp only [positive, Dump.natural, Coercion.integer, Except.bind, hn, if_false]
  rfl

theorem written_naturals (o : Option Nat) :
    nullable natural (Dump.orNull Dump.natural o) = .ok o :=
  nullable_orNull (fun n _ => natural_natural n) (by simp [Dump.natural])

theorem written_positives {o : Option Nat} (h : ∀ n ∈ o, 0 < n) :
    nullable positive (Dump.orNull Dump.natural o) = .ok o :=
  nullable_orNull (fun n hn => positive_natural (h n hn)) (by simp [Dump.natural])

theorem written_texts (o : Option String) : nullable text (Dump.orNull .text o) = .ok o :=
  nullable_orNull (fun s _ => text_text s) (by simp)

theorem written_bounds (o : Option Bound) : nullable bound (Dump.orNull Bound.toValue o) = .ok o :=
  nullable_orNull (fun b _ => bound_toValue b) (by rintro (_ | _) <;> simp [Bound.toValue])

theorem written_formats (o : Option TextFormat) :
    nullable (word (TextFormat.all.map (·.word)) TextFormat.ofWord?)
      (Dump.orNull (fun f => .text f.word) o) = .ok o :=
  nullable_orNull (fun f _ => word_word (by cases f <;> decide)) (by simp)

theorem written_types (o : Option StorageType) :
    nullable (word (StorageType.all.map (·.word)) StorageType.ofWord?)
      (Dump.orNull (fun t => .text t.word) o) = .ok o :=
  nullable_orNull (fun t _ => word_word t.ofWord?_word) (by simp)

theorem written_flags (o : Option Bool) : nullable flag (Dump.orNull .bool o) = .ok o :=
  nullable_orNull (fun b _ => flag_bool b) (by simp)

theorem written_defaults (o : Option Default) :
    nullable default (Dump.orNull Default.toValue o) = .ok o :=
  nullable_orNull (fun d _ => default_toValue d)
    (by rintro (_ | _ | _ | _) <;> simp [Default.toValue])

theorem written_options (os : List String) : tuple text (.list (os.map .text)) = .ok os :=
  tuple_map fun s _ => text_text s

theorem written_refinements {r : Rules} (h : r.refine = []) :
    tuple refinement (.list (r.refine.map Dump.refinement)) = .ok r.refine := by
  rw [h]
  rfl

theorem rules_dump {r : Rules} (h : r.refine = []) : rules (Dump.rules r) = .ok r := by
  have hkeys : ruleKeys.Nodup := by decide
  unfold rules Dump.rules
  dsimp only
  refine barring_written (and_written (and_written (and_written (and_written (and_written
    (and_written (and_written (and_written (and_written (and_written rfl ?minLength) ?maxLength)
    ?pattern) ?format) ?integerOnly) ?positive) ?minimum) ?maximum) ?options) ?refine) rfl
  case minLength => exact optional_written hkeys (by simp) (written_naturals _)
  case maxLength => exact optional_written hkeys (by simp) (written_naturals _)
  case pattern => exact optional_written hkeys (by simp) (written_texts _)
  case format => exact optional_written hkeys (by simp) (written_formats _)
  case integerOnly => exact optional_written hkeys (by simp) (flag_bool _)
  case positive => exact optional_written hkeys (by simp) (flag_bool _)
  case minimum => exact optional_written hkeys (by simp) (written_bounds _)
  case maximum => exact optional_written hkeys (by simp) (written_bounds _)
  case options => exact optional_written hkeys (by simp) (written_options _)
  case refine => exact optional_written hkeys (by simp) (written_refinements h)

/-- The sizes of a column count something. -/
structure Sized (s : Storage) : Prop where
  length : ∀ n ∈ s.length, 0 < n
  precision : ∀ n ∈ s.precision, 0 < n

theorem storage_dump {s : Storage} (h : Sized s) : storage (Dump.storage s) = .ok s := by
  have hkeys : storageKeys.Nodup := by decide
  unfold storage Dump.storage
  dsimp only
  refine barring_written (and_written (and_written (and_written (and_written (and_written
    (and_written (and_written (and_written rfl ?type) ?length) ?precision) ?scale) ?nullable)
    ?unique) ?index) ?default) rfl
  case type => exact optional_written hkeys (by simp) (written_types _)
  case length => exact optional_written hkeys (by simp) (written_positives h.length)
  case precision => exact optional_written hkeys (by simp) (written_positives h.precision)
  case scale => exact optional_written hkeys (by simp) (written_naturals _)
  case nullable => exact optional_written hkeys (by simp) (written_flags _)
  case unique => exact optional_written hkeys (by simp) (flag_bool _)
  case index => exact optional_written hkeys (by simp) (flag_bool _)
  case default => exact optional_written hkeys (by simp) (written_defaults _)

theorem field_dump {f : Field} (hrefine : f.rules.refine = []) (hsized : Sized f.storage) :
    field (Dump.field f) = .ok f := by
  have hkeys : fieldKeys.Nodup := by decide
  unfold field Dump.field
  dsimp only
  refine barring_written (and_written (and_written (and_written (and_written (and_written
    (and_written (and_written (and_written rfl ?name) ?kind) ?required) ?rules) ?storage) ?label)
    ?description) ?placeholder) rfl
  case name => exact mandatory_written hkeys (by simp) (text_text _)
  case kind => exact mandatory_written hkeys (by simp) (word_word f.kind.ofWord?_word)
  case required => exact optional_written hkeys (by simp) (flag_bool _)
  case rules => exact optional_written hkeys (by simp) (rules_dump hrefine)
  case storage => exact optional_written hkeys (by simp) (storage_dump hsized)
  case label => exact optional_written hkeys (by simp) (written_texts _)
  case description => exact optional_written hkeys (by simp) (written_texts _)
  case placeholder => exact optional_written hkeys (by simp) (written_texts _)

theorem descriptor_dump {d : Descriptor} (hrefine : ∀ f ∈ d.fields, f.rules.refine = [])
    (hsized : ∀ f ∈ d.fields, Sized f.storage) : descriptor d.dump = .ok d := by
  have hkeys : descriptorKeys.Nodup := by decide
  unfold descriptor Descriptor.dump
  dsimp only
  refine barring_written (and_written (and_written (and_written (and_written rfl ?name) ?fields)
    ?title) ?description) rfl
  case name => exact mandatory_written hkeys (by simp) (text_text _)
  case fields =>
    have hfields : ∀ f ∈ d.fields, field (Dump.field f) = .ok f :=
      fun f hf => field_dump (hrefine f hf) (hsized f hf)
    exact optional_written hkeys (by simp) (tuple_map hfields)
  case title => exact optional_written hkeys (by simp) (written_texts _)
  case description => exact optional_written hkeys (by simp) (written_texts _)

/-! ## What was read -/

section Read

variable {α : Type} {read : Value → Gathered α} {P : α → Prop} {v : Value}

theorem of_optional {entries : Entries} {key : String} {absent a : α}
    (h : optional entries key absent read = .ok a) (habsent : P absent)
    (hread : ∀ v, read v = .ok a → P a) : P a := by
  unfold Reading.optional at h
  split at h
  next => exact Except.ok.inj h ▸ habsent
  next v _ => exact hread v (within_ok.mp h)

theorem of_nullable {o : Option α} (h : nullable read v = .ok o)
    (hread : ∀ v a, read v = .ok a → P a) : ∀ a ∈ o, P a := by
  unfold nullable at h
  split at h
  next => simp [← Except.ok.inj h]
  next =>
    obtain ⟨a, ha, rfl⟩ := map_ok.mp h
    simpa using hread _ a ha

theorem of_items {i : Nat} {vs : List Value} {as : List α} (h : items read i vs = .ok as)
    (hread : ∀ v a, read v = .ok a → P a) : ∀ a ∈ as, P a := by
  induction vs generalizing i as with
  | nil => simp [← Except.ok.inj h]
  | cons v vs ih =>
    obtain ⟨cons, rest, hcons, hrest, rfl⟩ := and_ok.mp h
    obtain ⟨_, a, hmk, ha, rfl⟩ := and_ok.mp hcons
    obtain rfl := Except.ok.inj hmk
    simp only [List.mem_cons, forall_eq_or_imp]
    exact ⟨hread v a (within_ok.mp ha), ih hrest⟩

theorem of_tuple {as : List α} (h : tuple read v = .ok as)
    (hread : ∀ v a, read v = .ok a → P a) : ∀ a ∈ as, P a := by
  cases v with
  | list vs => exact of_items h hread
  | _ => cases h

end Read

theorem positive_pos {v : Value} {n : Nat} (h : positive v = .ok n) : 0 < n := by
  obtain ⟨k, -, hk⟩ := bind_ok.mp (ofRefusal_ok.mp h)
  split_ifs at hk with hpos
  obtain rfl := Except.ok.inj hk
  omega

theorem of_barring {entries : Entries} {known : List String} {β : Type} {x : Gathered β} {b : β}
    (h : x.barring (undeclared known entries) = .ok b) : x = .ok b :=
  (Gathered.barring_ok.mp h).1

/-- The sizes that were read count. -/
theorem storage_sized {v : Value} {s : Storage} (h : storage v = .ok s) : Sized s := by
  cases v with
  | mapping entries =>
    obtain ⟨_, _, h7, -, rfl⟩ := Gathered.and_ok.mp (of_barring h)
    obtain ⟨_, _, h6, -, rfl⟩ := Gathered.and_ok.mp h7
    obtain ⟨_, _, h5, -, rfl⟩ := Gathered.and_ok.mp h6
    obtain ⟨_, _, h4, -, rfl⟩ := Gathered.and_ok.mp h5
    obtain ⟨_, _, h3, -, rfl⟩ := Gathered.and_ok.mp h4
    obtain ⟨_, _, h2, hprecision, rfl⟩ := Gathered.and_ok.mp h3
    obtain ⟨_, _, h1, hlength, rfl⟩ := Gathered.and_ok.mp h2
    obtain ⟨_, _, hmk, -, rfl⟩ := Gathered.and_ok.mp h1
    obtain rfl := Except.ok.inj hmk
    have hsize {key : String} {o : Option Nat}
        (h : optional entries key none (nullable positive) = .ok o) : ∀ n ∈ o, 0 < n :=
      of_optional (P := fun o => ∀ n ∈ o, 0 < n) h (by simp) fun _ hread =>
        of_nullable hread fun _ _ => positive_pos
    exact ⟨hsize hlength, hsize hprecision⟩
  | _ => cases h

theorem field_sized {v : Value} {f : Field} (h : field v = .ok f) : Sized f.storage := by
  cases v with
  | mapping entries =>
    obtain ⟨_, _, h7, -, rfl⟩ := Gathered.and_ok.mp (of_barring h)
    obtain ⟨_, _, h6, -, rfl⟩ := Gathered.and_ok.mp h7
    obtain ⟨_, _, h5, -, rfl⟩ := Gathered.and_ok.mp h6
    obtain ⟨_, _, h4, hstorage, rfl⟩ := Gathered.and_ok.mp h5
    obtain ⟨_, _, h3, -, rfl⟩ := Gathered.and_ok.mp h4
    obtain ⟨_, _, h2, -, rfl⟩ := Gathered.and_ok.mp h3
    obtain ⟨_, _, h1, -, rfl⟩ := Gathered.and_ok.mp h2
    obtain ⟨_, _, hmk, -, rfl⟩ := Gathered.and_ok.mp h1
    obtain rfl := Except.ok.inj hmk
    exact of_optional (P := Sized) hstorage ⟨nofun, nofun⟩ fun _ => storage_sized
  | _ => cases h

theorem fields_sized {v : Value} {d : Descriptor} (h : descriptor v = .ok d) :
    ∀ f ∈ d.fields, Sized f.storage := by
  cases v with
  | mapping entries =>
    obtain ⟨_, _, h3, -, rfl⟩ := Gathered.and_ok.mp (of_barring h)
    obtain ⟨_, _, h2, -, rfl⟩ := Gathered.and_ok.mp h3
    obtain ⟨_, _, h1, hfields, rfl⟩ := Gathered.and_ok.mp h2
    obtain ⟨_, _, hmk, -, rfl⟩ := Gathered.and_ok.mp h1
    obtain rfl := Except.ok.inj hmk
    exact of_optional (P := fun fs => ∀ f ∈ fs, Sized f.storage) hfields (by simp) fun _ hread =>
      of_tuple hread fun _ _ => field_sized
  | _ => cases h

end Load

/-! ## Dumps in JSON -/

/-- A whole number that is read from its digits. -/
def IsShort (n : ℤ) : Prop := digitCount n.natAbs ≤ Json.maxDigits

/-- The whole numbers among the attributes of a field can be read from their digits. -/
structure Field.Short (f : Field) : Prop where
  minLength : ∀ n ∈ f.rules.minLength, IsShort n
  maxLength : ∀ n ∈ f.rules.maxLength, IsShort n
  minimum : ∀ n, f.rules.minimum = some (.int n) → IsShort n
  maximum : ∀ n, f.rules.maximum = some (.int n) → IsShort n
  length : ∀ n ∈ f.storage.length, IsShort n
  precision : ∀ n ∈ f.storage.precision, IsShort n
  scale : ∀ n ∈ f.storage.scale, IsShort n
  default : ∀ n, f.storage.default = some (.int n) → IsShort n

namespace Dump

open Json

theorem readable_orNull {α : Type} {write : α → Value} {o : Option α}
    (h : ∀ a ∈ o, Readable (write a)) : Readable (orNull write o) := by
  cases o with
  | none => exact .null
  | some a => exact h a rfl

theorem readable_naturals {o : Option Nat} (h : ∀ n ∈ o, IsShort n) :
    Readable (orNull natural o) := readable_orNull fun n hn => .int (h n hn)

theorem readable_texts (o : Option String) : Readable (orNull .text o) :=
  readable_orNull fun s _ => .text s

theorem readable_words {α : Type} (word : α → String) (o : Option α) :
    Readable (orNull (fun a => .text (word a)) o) := readable_orNull fun a _ => .text (word a)

theorem readable_bounds {o : Option Bound} (h : ∀ n, o = some (.int n) → IsShort n) :
    Readable (orNull Bound.toValue o) := by
  refine readable_orNull ?_
  rintro (n | x) rfl
  · exact .int (h n rfl)
  · exact .float x

theorem readable_defaults {o : Option Default} (h : ∀ n, o = some (.int n) → IsShort n) :
    Readable (orNull Default.toValue o) := by
  refine readable_orNull ?_
  rintro (b | n | x | s) rfl
  · exact .bool b
  · exact .int (h n rfl)
  · exact .float x
  · exact .text s

theorem readable_refinement (r : Refinement) : Readable (refinement r) := by
  refine .mapping (by decide : ["check", "message"].Nodup) ?_
  simp only [List.forall_mem_cons]
  exact ⟨.text _, .text _, by simp⟩

theorem readable_rules {f : Field} (h : f.Short) : Readable (rules f.rules) := by
  refine .mapping (by decide : Load.ruleKeys.Nodup) ?_
  simp only [List.forall_mem_cons]
  exact ⟨readable_naturals h.minLength, readable_naturals h.maxLength, readable_texts _,
    readable_words _ _, .bool _, .bool _, readable_bounds h.minimum, readable_bounds h.maximum,
    .list (by simpa using fun s _ => .text s),
    .list (by simpa using fun r _ => readable_refinement r), by simp⟩

theorem readable_storage {f : Field} (h : f.Short) : Readable (storage f.storage) := by
  refine .mapping (by decide : Load.storageKeys.Nodup) ?_
  simp only [List.forall_mem_cons]
  exact ⟨readable_words _ _, readable_naturals h.length, readable_naturals h.precision,
    readable_naturals h.scale, readable_orNull fun b _ => .bool b, .bool _, .bool _,
    readable_defaults h.default, by simp⟩

theorem readable_field {f : Field} (h : f.Short) : Readable (field f) := by
  refine .mapping (by decide : Load.fieldKeys.Nodup) ?_
  simp only [List.forall_mem_cons]
  exact ⟨.text _, .text _, .bool _, readable_rules h, readable_storage h, readable_texts _,
    readable_texts _, readable_texts _, by simp⟩

theorem readable_dump {d : Descriptor} (h : ∀ f ∈ d.fields, f.Short) : Readable d.dump := by
  refine .mapping (by decide : Load.descriptorKeys.Nodup) ?_
  simp only [List.forall_mem_cons]
  exact ⟨.text _, .list (by simpa using fun f hf => readable_field (h f hf)), readable_texts _,
    readable_texts _, by simp⟩

end Dump

/-! ## Loading once more -/

theorem Descriptor.check_ok {d accepted : Descriptor} (h : d.check = .ok accepted) :
    accepted = d := by
  unfold Descriptor.check at h
  split at h
  next => cases h
  next => exact (Except.ok.inj h).symm
  next => cases h

namespace Artifacts

variable {v : Value} {d : Descriptor} {kept : Artifacts}

/-- What loads where nothing is kept was read, accepted, and is all that is kept. -/
theorem load_empty : ({} : Artifacts).load v = (.ok d, kept) ↔
    Load.descriptor v = .ok d ∧ d.check = .ok d ∧
      kept = { checked := ({} : Cache Descriptor).add d d } := by
  unfold Artifacts.load Artifacts.check
  cases hread : Load.descriptor v with
  | error problems => simp
  | ok read =>
    simp only [Cache.answer?_empty]
    cases hcheck : read.check with
    | error e =>
      refine iff_of_false nofun ?_
      rintro ⟨hsame, hok, -⟩
      rw [← Except.ok.inj hsame, hcheck] at hok
      cases hok
    | ok accepted =>
      obtain rfl := Descriptor.check_ok hcheck
      constructor
      · intro h
        obtain ⟨hd, hkept⟩ := Prod.mk.inj h
        obtain rfl := Except.ok.inj hd
        exact ⟨rfl, hcheck, hkept.symm⟩
      · rintro ⟨hd, -, rfl⟩
        obtain rfl := Except.ok.inj hd
        rfl

/-- A descriptor that was accepted is accepted again where it is the only one that is kept. -/
theorem check_again (h : d.check = .ok d) :
    (({ checked := ({} : Cache Descriptor).add d d } : Artifacts).check d).1 = .ok d := by
  by_cases hsame : d.same d = true
  · obtain ⟨after, hanswer⟩ := Cache.answer?_add (a := d) hsame
    simp only [Artifacts.check, hanswer]
  · have hanswer : (({} : Cache Descriptor).add d d).answer? d = none := by
      simp [Cache.answer?, Cache.add, Cache.capacity, hsame]
    simp only [Artifacts.check, hanswer, h]

/-- What a mapping was read as is read from its dump as well, be it from the mapping that the dump
is or from its text in JSON: every attribute has the value and the form that it had. -/
theorem load_dump (hload : ({} : Artifacts).load v = (.ok d, kept))
    (hrefine : ∀ f ∈ d.fields, f.rules.refine = []) :
    ({} : Artifacts).load d.dump = (.ok d, kept) ∧ (kept.load d.dump).1 = .ok d ∧
    Report.descriptor .json d = .ok [.verbatim (Json.render d.dump)] ∧
    ((∀ f ∈ d.fields, f.Short) → Json.read (Json.render d.dump) = .ok d.dump) := by
  obtain ⟨hread, hcheck, rfl⟩ := load_empty.mp hload
  have hdump := Load.descriptor_dump hrefine (Load.fields_sized hread)
  refine ⟨load_empty.mpr ⟨hdump, hcheck, rfl⟩, ?_, ?_, ?_⟩
  · rw [Artifacts.load, hdump]
    exact check_again hcheck
  · have hnone : d.fields.any (! ·.rules.refine.isEmpty) = false := by
      simpa using hrefine
    rw [Report.descriptor, hnone]
    rfl
  · exact fun h => Json.read_render (Dump.readable_dump h)

/-- A price: some attributes have other forms than their own, bounds and default are of each number. -/
def priced : Value :=
  .mapping [("name", .text "t"), ("fields", .list [.mapping [("name", .text "price"),
    ("kind", .text "decimal"), ("required", .text "no"),
    ("validation", .mapping [("minimum", .text "1"), ("maximum", .float (.ofRatio false 21 2))]),
    ("storage", .mapping [("precision", .text "12"), ("scale", .int 2), ("unique", .int 1),
      ("default", .float (.ofInt 2))])]])]

/-- The same as a descriptor. -/
def price : Descriptor :=
  { name := "t"
    fields := [{ name := "price", kind := .decimal
                 rules := { minimum := some (.int 1)
                            maximum := some (.float (.ofRatio false 21 2)) }
                 storage := { precision := some 12, scale := some 2, unique := true
                              default := some (.float (.ofInt 2)) } }] }

/-- The price loads, and from its dump and its text in JSON again. -/
theorem priced_again : ({} : Artifacts).load priced =
      (.ok price, { checked := ({} : Cache Descriptor).add price price }) ∧
    (∀ f ∈ price.fields, f.rules.refine = []) ∧
    ({} : Artifacts).load price.dump =
      (.ok price, { checked := ({} : Cache Descriptor).add price price }) ∧
    Json.read (Json.render price.dump) = .ok price.dump := by
  have hread : Load.descriptor priced = .ok price := rfl
  have hproblems : price.problems = .ok [] := by decide +kernel
  have hcheck : price.check = .ok price := by simp [Descriptor.check, hproblems]
  have hload := load_empty.mpr ⟨hread, hcheck, rfl⟩
  have hrefine : ∀ f ∈ price.fields, f.rules.refine = [] := by simp [price]
  obtain ⟨hagain, -, -, htext⟩ := load_dump hload hrefine
  refine ⟨hload, hrefine, hagain, htext ?_⟩
  have hshort : IsShort 1 ∧ IsShort 2 ∧ IsShort 12 := by
    unfold IsShort
    decide
  intro f hf
  obtain rfl := List.mem_singleton.mp hf
  constructor <;> simp [hshort]

end Artifacts

end EntityStore
