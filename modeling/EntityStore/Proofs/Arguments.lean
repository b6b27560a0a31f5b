import EntityStore.Command.Argument
import EntityStore.Proofs.Filters
import EntityStore.Proofs.JsonValue
import EntityStore.Proofs.Keys
import EntityStore.Proofs.Paging
import EntityStore.Proofs.WrittenValues

/-! # Filters in writing

On the command line a filter is a name and a text with an equals sign between them. The text of a
value that its column takes is read there as the same value, so such filters find what the values
themselves would find.
-/
namespace EntityStore

open Database

/-! ## Values as they are read -/

section Read

variable {d : Descriptor} {name text : String} {v w x : Value}

theorem Descriptor.Accepted.field?_of_mem (hd : d.Accepted) {f : Field} (hf : f ∈ d.fields) :
    d.field? f.name = some f := by
  have hsome : (d.field? f.name).isSome = true := by
    rw [Descriptor.field?, List.find?_isSome]
    exact ⟨f, hf, by simp⟩
  obtain ⟨g, hg⟩ := Option.isSome_iff_exists.mp hsome
  have hname : g.name = f.name := by simpa using List.find?_some hg
  rw [hg, hd.field_eq (List.mem_of_find?_eq_some hg) hf hname]

theorem Argument.filterValue_text (hn : text ≠ "null")
    (hk : ∀ f ∈ d.fields, f.name = name → f.kind ≠ .boolean) :
    filterValue d name text = .text text := by
  have hflag : (d.field? name).any (·.kind = .boolean) = false := by
    cases hf : d.field? name with
    | none => rfl
    | some f =>
      have hname : f.name = name := by simpa using List.find?_some hf
      simpa using hk f (List.mem_of_find?_eq_some hf) hname
  rw [filterValue, if_neg hn, if_neg (by simp [hflag])]

theorem Argument.filterValue_flag (hd : d.Accepted) {f : Field} (hf : f ∈ d.fields)
    (hk : f.kind = .boolean) (b : Bool) :
    filterValue d f.name (if b then "true" else "false") = .bool b := by
  have hflag : (d.field? f.name).any (·.kind = .boolean) = true := by
    rw [hd.field?_of_mem hf]
    simpa using hk
  cases b <;> simp [filterValue, hflag]

/-- A value that its column takes, and its text as an argument. -/
structure Descriptor.Writes (d : Descriptor) (name : String) (v : Value) (text : String) : Prop where
  taken : ∃ x, d.Normal name v x
  written : v.argument? = some text
  notNull : v.idText? ≠ some "null"
  range : v.inDecimalRange = true
  plain : ∀ f ∈ d.fields, f.name = name → f.kind = .integer → hasExponent text = false

namespace Descriptor.Writes

theorem isNull (h : d.Writes name v text) : v.isNull = false := by
  obtain ⟨-, ht, -⟩ := h
  cases v <;> first | rfl | cases ht

theorem read_isNull (h : d.Writes name v text) :
    (Argument.filterValue d name text).isNull = false := by
  rw [Argument.filterValue, if_neg (Value.argument?_ne_null h.written h.notNull)]
  split <;> rfl

/-- What is read from the text has the normal form of the value. -/
theorem normal (hd : d.Accepted) (h : d.Writes name v text) (hx : d.Normal name v x) :
    d.Normal name (Argument.filterValue d name text) x := by
  have hne := Value.argument?_ne_null h.written h.notNull
  cases hx with
  | id k hn hk =>
    subst hn
    rw [Argument.filterValue_text hne fun f hf hname => absurd hname (Field.name_ne hd hf).1]
    have htext : text = k := by
      have ht := h.written
      cases v with
      | text s => exact Option.some.inj (ht.symm.trans hk)
      | uuid s => exact Option.some.inj (ht.symm.trans hk)
      | _ => cases hk
    exact .id k rfl (by rw [htext]; rfl)
  | moment t u hn ht hu =>
    rw [Argument.filterValue_text hne fun f hf hname =>
      absurd (hname ▸ hn) (Field.name_ne hd hf).2]
    exact .moment t u hn (Value.moment?_argument ht h.written) hu
  | field f hf hn _ hr =>
    subst hn
    refine .field f hf rfl x ?_
    have hpresent : Rule.present f v = .ok x := by
      have hnull := h.isNull
      cases v <;> first | exact hr | cases hnull
    obtain ⟨y, hy, hrest⟩ := bind_ok.mp hpresent
    by_cases hk : f.kind = .boolean
    · have hflag : Rule.boolean v = .ok y := by simpa only [Rule.builtIn, hk] using hy
      obtain ⟨b, rfl, -⟩ := Rule.boolean_ok hflag
      rw [← Option.some.inj h.written, Argument.filterValue_flag hd hf hk]
      exact hr
    · rw [Argument.filterValue_text hne fun g hg hname => hd.field_eq hg hf hname ▸ hk]
      exact bind_ok.mpr ⟨y, Rule.builtIn_argument (hd.sound hf) hy hk h.range
        (h.plain f hf rfl) h.written, hrest⟩

end Descriptor.Writes

namespace Store

/-- Values of one normal form are sought alike, also where the rules of the entity cannot be made. -/
theorem sought_congr (hd : d.Accepted) (hv : d.Normal name v x) (hw : d.Normal name w x) :
    sought d name v = sought d name w := by
  cases hvalidator : Validator.ofDescriptor d with
  | ok validator =>
    rw [sought_of_normal hd ⟨validator, hvalidator⟩ hv,
      sought_of_normal hd ⟨validator, hvalidator⟩ hw]
  | error e =>
    cases hv with
    | id k hn hk =>
      subst hn
      obtain ⟨_, hk', ⟨⟩⟩ := (Descriptor.Normal.id_iff hd).mp hw
      simp only [sought, hk, hk', if_true]
    | moment t u hn ht hu =>
      have hid : name ≠ "id" := by
        rcases hn with rfl | rfl <;> decide
      obtain ⟨t', _, ht', hu', ⟨⟩⟩ := (Descriptor.Normal.moment_iff hd hn).mp hw
      simp only [sought, if_neg hid, if_pos hn, soughtTime_eq, ht, hu, ht', hu']
    | field f hf hn _ _ =>
      subst hn
      obtain ⟨hid, ht⟩ := Field.name_ne hd hf
      simp only [sought, if_neg hid, if_neg ht, hvalidator, Except.mapError, error_bind]

theorem column_named {t : TableSchema} {c : Column} (h : column t (.text name) = .ok c) :
    c.name = name := by
  simp only [column] at h
  split at h
  · rename_i found hfound
    cases h
    simpa using List.find?_some hfound
  · cases h

/-- A filter as it is read makes the condition of the value that was written. -/
theorem condition_argument (hd : d.Accepted) (h : d.Writes name v text) (t : TableSchema) :
    condition d t (name, Argument.filterValue d name text) = condition d t (name, v) := by
  obtain ⟨x, hx⟩ := h.taken
  cases hc : column t (.text name) with
  | error f => simp only [condition, hc, error_bind]
  | ok c =>
    simp only [condition, hc, ok_bind, h.isNull, h.read_isNull, column_named hc,
      sought_congr hd (h.normal hd hx) hx]

end Store

end Read

/-! ## Lists of filters -/

section Lists

variable {d : Descriptor} {name text : String} {pairs : List (String × Value)}
  {arguments : List String}

/-- An argument is split at its first equals sign; what follows is kept as it is. -/
theorem Argument.filter_word (hw : isWord name = true) :
    filter d (name ++ "=" ++ text) = .ok (name, filterValue d name text) := by
  have hchars : (name ++ "=" ++ text).toList = name.toList ++ '=' :: text.toList := by simp
  have hname : ∀ c ∈ name.toList, decide (c ≠ '=') = true := by
    rintro c hc
    have hne : c ≠ '=' := by
      rintro rfl
      exact not_mem_word hw (by decide) hc
    simpa using hne
  have htake : (name.toList ++ '=' :: text.toList).takeWhile (· ≠ '=') = name.toList := by
    rw [List.takeWhile_append_of_pos hname]
    simp
  have hdrop : (name.toList ++ '=' :: text.toList).dropWhile (· ≠ '=') = '=' :: text.toList := by
    rw [List.dropWhile_append_of_pos hname]
    simp
  have htrim : trimBlanks name.toList = name.toList :=
    trim_eq fun c hc => isBlank_identifier (isIdentifierChar_of_word hw hc)
  simp only [filter, hchars, htake, hdrop, htrim, String.ofList_toList]

/-- An argument that is written for a filter. -/
def Descriptor.Argues (d : Descriptor) (pair : String × Value) (argument : String) : Prop :=
  ∃ text, d.Writes pair.1 pair.2 text ∧ argument = pair.1 ++ "=" ++ text

/-- The names of the columns are words of ASCII letters, digits and underscores. -/
def Descriptor.Worded (d : Descriptor) : Prop := ∀ f ∈ d.fields, isWord f.name = true

theorem Descriptor.Normal.isWord (hw : d.Worded) {v x : Value} (h : d.Normal name v x) :
    EntityStore.isWord name = true := by
  cases h with
  | id k hn _ =>
    subst hn
    decide
  | moment t u hn _ _ => rcases hn with rfl | rfl <;> decide
  | field f hf hn _ _ =>
    subst hn
    exact hw f hf

/-- The arguments of filters are read one after the other, each as the filter it was written for. -/
theorem Argument.foldlM_filters (hd : d.Accepted) (hw : d.Worded)
    (h : List.Forall₂ d.Argues pairs arguments) (hn : (pairs.map (·.1)).Nodup)
    {entries : List (String × Value)} (hnew : ∀ p ∈ pairs, p.1 ∉ entries.map (·.1)) :
    ∃ read : List (String × Value), arguments.foldlM (fun entries pair =>
        (filter d pair).map fun (name, v) => Json.putEntry entries name v) entries =
          .ok (entries ++ read) ∧
      ∀ t, Store.conditionsOf d t read = Store.conditionsOf d t pairs := by
  induction h generalizing entries with
  | nil => exact ⟨[], by simp; rfl, fun t => rfl⟩
  | @cons pair argument pairs arguments hfirst _ ih =>
    obtain ⟨text, hwrites, rfl⟩ := hfirst
    obtain ⟨hfresh, hn⟩ := List.nodup_cons.mp hn
    have hword : isWord pair.1 = true := by
      obtain ⟨x, hx⟩ := hwrites.taken
      exact hx.isWord hw
    have hput := Json.putEntry_new (v := filterValue d pair.1 text) (hnew pair (List.mem_cons_self ..))
    have hlater : ∀ p ∈ pairs,
        p.1 ∉ (entries ++ [(pair.1, filterValue d pair.1 text)]).map (·.1) := by
      intro p hp hmem
      rw [List.map_append, List.mem_append] at hmem
      rcases hmem with hmem | hmem
      · exact hnew p (List.mem_cons_of_mem _ hp) hmem
      · have hname : p.1 = pair.1 := by simpa using hmem
        exact hfresh (List.mem_map.mpr ⟨p, hp, hname⟩)
    obtain ⟨read, hread, hconditions⟩ := ih hn hlater
    refine ⟨(pair.1, filterValue d pair.1 text) :: read, ?_, ?_⟩
    · have hstep : (filter d (pair.1 ++ "=" ++ text)).map
          (fun (name, v) => Json.putEntry entries name v) =
            .ok (entries ++ [(pair.1, filterValue d pair.1 text)]) := by
        rw [filter_word hword]
        exact congrArg Except.ok hput
      rw [List.foldlM_cons, hstep, ok_bind, hread, List.append_assoc, List.singleton_append]
    · intro t
      have hfilter := Store.condition_argument hd hwrites t
      simp only [Store.conditionsOf, hfilter, hconditions]

namespace Store

/-- Readings depend on their filters by the conditions that these make. -/
theorem count_congr {e : Registered} {read : List (String × Value)}
    (h : ∀ t, conditionsOf e.descriptor t read = conditionsOf e.descriptor t pairs) :
    count e (.mapping read) = count e (.mapping pairs) := by
  simp only [count, conditions, filterEntries, ok_bind, h]

theorem get_congr {e : Registered} {read : List (String × Value)}
    (h : ∀ t, conditionsOf e.descriptor t read = conditionsOf e.descriptor t pairs)
    (request : PageRequest) : get e { request with filters := .mapping read } =
      get e { request with filters := .mapping pairs } := by
  simp only [get, conditions, filterEntries, ok_bind, h]

/-- Filters that are written as arguments are read, and a page and a count by what was read are those
by the filters themselves, whatever the store holds. -/
theorem filters_written {e : Registered} (hd : e.descriptor.Accepted) (hw : e.descriptor.Worded)
    (hn : (pairs.map (·.1)).Nodup) (h : List.Forall₂ e.descriptor.Argues pairs arguments) :
    ∃ read, Argument.filters e.descriptor arguments = .ok read ∧
      (∀ request : PageRequest, get e { request with filters := .mapping read } =
        get e { request with filters := .mapping pairs }) ∧
      count e (.mapping read) = count e (.mapping pairs) := by
  have hnew : ∀ p ∈ pairs, p.1 ∉ ([] : List (String × Value)).map (·.1) := by simp
  obtain ⟨read, hread, hconditions⟩ := Argument.foldlM_filters hd hw h hn hnew
  exact ⟨read, hread, get_congr hconditions, count_congr hconditions⟩

/-- A field of whole numbers. -/
def tally : Field := { name := "n", kind := .integer }

/-- A field of short texts. -/
def note : Field := { name := "note", kind := .shortText }

/-- An entity with a tally and a note. -/
def tallied : Registered := ⟨0, { name := "t", fields := [tally, note] }⟩

theorem tallied_accepted : tallied.descriptor.Accepted := by
  unfold Descriptor.Accepted
  rfl

theorem tallied_worded : tallied.descriptor.Worded := by
  intro f hf
  simp only [tallied, List.mem_cons, List.not_mem_nil, or_false] at hf
  rcases hf with rfl | rfl <;> decide

/-- A tally and a note with an equals sign between blanks. -/
theorem tally_written : tallied.descriptor.Accepted ∧ tallied.descriptor.Worded ∧
    List.Forall₂ tallied.descriptor.Argues [("n", .int 10), ("note", .text " a = b ")]
      ["n=10", "note= a = b "] ∧
    ∃ read, Argument.filters tallied.descriptor ["n=10", "note= a = b "] = .ok read ∧
      count tallied (.mapping read) =
        count tallied (.mapping [("n", .int 10), ("note", .text " a = b ")]) := by
  have hn : tallied.descriptor.Writes "n" (.int 10) "10" :=
    ⟨⟨.int 10, .field tally (by simp [tallied]) rfl _ rfl⟩, rfl, by simp [Value.idText?], by decide,
      fun _ _ _ _ => by decide⟩
  have hnote : tallied.descriptor.Writes "note" (.text " a = b ") " a = b " :=
    ⟨⟨.text " a = b ", .field note (by simp [tallied]) rfl _ rfl⟩, rfl, by simp [Value.idText?],
      by decide, fun _ _ _ _ => by decide⟩
  have h : List.Forall₂ tallied.descriptor.Argues [("n", .int 10), ("note", .text " a = b ")]
      ["n=10", "note= a = b "] := .cons ⟨_, hn, rfl⟩ (.cons ⟨_, hnote, rfl⟩ .nil)
  obtain ⟨read, hread, -, hcount⟩ := filters_written tallied_accepted tallied_worded (by decide) h
  exact ⟨tallied_accepted, tallied_worded, h, read, hread, hcount⟩

/-- A store with one record, whose tally is ten. -/
def tenTallied : Store :=
  (EntityStore.run tallied [⟨0, .create (.mapping [("n", .int 10)])⟩] inMemory).2

/-- Ten as a decimal number of one digit and one zero is found, but not by its text. -/
theorem power_missed : tallied.descriptor.Accepted ∧ tallied.descriptor.Worded ∧
    tallied.descriptor.Normal "n" (.decimal (.finite false 1 1)) (.int 10) ∧
    Value.argument? (.decimal (.finite false 1 1)) = some "1E+1" ∧
    ((count tallied (.mapping [("n", .decimal (.finite false 1 1))])).on tenTallied).1 = .ok 1 ∧
    ∃ read, Argument.filters tallied.descriptor ["n=1E+1"] = .ok read ∧
      ((count tallied (.mapping read)).on tenTallied).1 = .ok 0 := by
  have hnormal : tallied.descriptor.Normal "n" (.decimal (.finite false 1 1)) (.int 10) :=
    .field tally (by simp [tallied]) rfl _ rfl
  exact ⟨tallied_accepted, tallied_worded, hnormal, by decide, ok_of_toOption (by decide +kernel),
    [("n", .text "1E+1")], rfl, ok_of_toOption (by decide +kernel)⟩

end Store

end Lists

end EntityStore
