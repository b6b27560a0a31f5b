import EntityStore.Proofs.Documented
import EntityStore.Proofs.Keys
import EntityStore.Proofs.PatternSearch

/-! # The names that pass

The check of names searches them for a pattern that is tied to the front and to the end. The end of
it also holds in front of a line break that ends the text, so two kinds of names pass: words of
ASCII letters, digits and underscores, and such words with a line break behind them. The reading of
a table and the check of a descriptor let through the same names.
-/
namespace EntityStore

namespace Pattern

/-! ## The pattern of names -/

def namePattern : String := "^[A-Za-z_][A-Za-z0-9_]*$"

def firstLetter : Expr := .oneOf false [.range 65 90, .range 97 122, .one 95]
def laterLetter : Expr := .oneOf false [.range 65 90, .range 97 122, .range 48 57, .one 95]

def nameExpr : Expr :=
  .seq (.anchor .lineStart) (.seq firstLetter
    (.seq (.repeated 0 none .greedy laterLetter) (.anchor .lineEnd)))

theorem compile_namePattern : compile namePattern = .ok ⟨nameExpr, {}, 0⟩ := by
  decide +kernel

theorem matches_firstLetter (c : Char) : matchesUnit {} c firstLetter = isIdentifierStart c := by
  rw [Bool.eq_iff_iff]
  delta isIdentifierStart Char.isAlpha Char.isUpper Char.isLower
  simp only [firstLetter, matchesUnit, matchesSet, List.any_cons, List.any_nil, SetItem.holds]
  simp [Char.ext_iff, UInt32.le_iff_toNat_le, ← UInt32.toNat_inj]
  omega

theorem matches_laterLetter (c : Char) : matchesUnit {} c laterLetter = isIdentifierChar c := by
  rw [Bool.eq_iff_iff]
  delta isIdentifierChar Char.isAlphanum Char.isAlpha Char.isUpper Char.isLower Char.isDigit
  simp only [laterLetter, matchesUnit, matchesSet, List.any_cons, List.any_nil, SetItem.holds]
  simp [Char.ext_iff, UInt32.le_iff_toNat_le, ← UInt32.toNat_inj]
  omega

/-- From the front on the pattern reads a letter, then letters and digits up to where the line
ends. -/
theorem reads_nameExpr {front piece back : List Char} : nameExpr.Reads {} front piece back ↔
    front = [] ∧ (∃ c letters, piece = c :: letters ∧ isIdentifierStart c = true ∧
      letters.all isIdentifierChar = true) ∧ (back = [] ∨ back = ['\n']) := by
  simp only [nameExpr, Expr.Reads, Expr.reads_unit (show firstLetter.isUnit = true from rfl),
    matches_firstLetter, matches_laterLetter, lineStart_holds_iff, lineEnd_holds_iff,
    List.all_eq_true]
  constructor
  · rintro ⟨_, _, rfl, ⟨rfl, rfl⟩, _, _, rfl, ⟨c, rfl, hc⟩, letters, _, rfl, ⟨-, hall⟩, rfl, hback⟩
    exact ⟨rfl, ⟨c, letters, by simp, hc, hall⟩, hback⟩
  · rintro ⟨rfl, ⟨c, letters, rfl, hc, hall⟩, hback⟩
    exact ⟨[], _, rfl, ⟨rfl, rfl⟩, [c], letters, rfl, ⟨c, rfl, hc⟩, letters, [], by simp,
      ⟨Nat.zero_le _, hall⟩, rfl, hback⟩

/-- A search finds the pattern in the names that pass, and in no others. -/
theorem search_nameExpr (name : String) :
    Compiled.search ⟨nameExpr, {}, 0⟩ name = isIdentifier name := by
  rw [Bool.eq_iff_iff, search_iff_reads rfl, isIdentifier]
  simp only [reads_nameExpr]
  have hline : ∀ letters : List Char, letters.all isIdentifierChar = true →
      letters.getLast? ≠ some '\n' := by
    intro letters hall hlast
    exact absurd (List.all_eq_true.mp hall _ (List.mem_of_getLast? hlast)) (by decide)
  cases name.toList with
  | nil => simp
  | cons c rest =>
    rw [Bool.and_eq_true, ← exists_line_iff hline]
    constructor
    · rintro ⟨_, _, back, ht, rfl, ⟨_, letters, rfl, hc, hall⟩, hback⟩
      obtain ⟨rfl, rfl⟩ := List.cons.inj ht
      exact ⟨hc, letters, back, rfl, hall, hback⟩
    · rintro ⟨hc, letters, back, rfl, hall, hback⟩
      exact ⟨[], _, back, rfl, rfl, ⟨c, letters, rfl, hc, hall⟩, hback⟩

end Pattern

/-! ## Words -/

/-- A word of ASCII letters, digits and underscores that begins with no digit. -/
structure PlainWord (word : String) : Prop where
  nonempty : word ≠ ""
  letters : ∀ c ∈ word.toList, isIdentifierChar c = true
  head : ∀ c, word.toList.head? = some c → c.isDigit = false

namespace PlainWord

variable {word : String}

theorem isWord_eq_true (h : PlainWord word) : isWord word = true := List.all_eq_true.mpr h.letters

theorem toList_ne_nil (h : PlainWord word) : word.toList ≠ [] :=
  fun hnil => h.nonempty (String.toList_injective hnil)

end PlainWord

/-- Whether a word is one can be computed. -/
theorem plainWord_iff {word : String} : PlainWord word ↔
    isWord word = true ∧ word.toList.head?.any (! ·.isDigit) = true := by
  constructor
  · intro h
    obtain ⟨c, rest, hcons⟩ := List.exists_cons_of_ne_nil h.toList_ne_nil
    have hc := h.head c (by rw [hcons]; rfl)
    exact ⟨h.isWord_eq_true, by simp [hcons, hc]⟩
  · rintro ⟨hword, hhead⟩
    refine ⟨?_, List.all_eq_true.mp hword, fun c hc => by simpa [hc] using hhead⟩
    rintro rfl
    cases hhead

/-- What passes for a name: a word, or a word and a line break. -/
def PassesForName (name : String) : Prop :=
  ∃ word, PlainWord word ∧ (name = word ∨ name = word ++ "\n")

theorem isIdentifierStart_iff {c : Char} :
    isIdentifierStart c = true ↔ isIdentifierChar c = true ∧ c.isDigit = false := by
  rw [← Bool.not_eq_true]
  delta isIdentifierStart isIdentifierChar Char.isAlphanum Char.isAlpha Char.isUpper Char.isLower
    Char.isDigit
  simp [Char.ext_iff, UInt32.le_iff_toNat_le, ← UInt32.toNat_inj]
  omega

theorem plainWord_cons {c : Char} {rest : List Char} : PlainWord (String.ofList (c :: rest)) ↔
    isIdentifierStart c = true ∧ rest.all isIdentifierChar = true := by
  rw [isIdentifierStart_iff, List.all_eq_true]
  constructor
  · rintro ⟨-, hletters, hhead⟩
    simp only [String.toList_ofList, List.mem_cons, forall_eq_or_imp] at hletters hhead
    exact ⟨⟨hletters.1, hhead c rfl⟩, hletters.2⟩
  · rintro ⟨⟨hc, hdigit⟩, hrest⟩
    refine ⟨?_, by simpa using ⟨hc, hrest⟩, by simpa using hdigit⟩
    intro hempty
    simpa using congrArg String.toList hempty

theorem isIdentifier_iff {name : String} : isIdentifier name = true ↔ PassesForName name := by
  constructor
  · intro h
    unfold isIdentifier at h
    cases hn : name.toList with
    | nil => simp [hn] at h
    | cons c rest =>
      simp only [hn, Bool.and_eq_true] at h
      obtain ⟨hc, hall⟩ := h
      by_cases hlast : rest.getLast? = some '\n'
      · obtain ⟨body, rfl⟩ := List.getLast?_eq_some_iff.mp hlast
        rw [if_pos hlast, List.dropLast_concat] at hall
        refine ⟨String.ofList (c :: body), plainWord_cons.mpr ⟨hc, hall⟩, .inr ?_⟩
        exact String.toList_injective (by simp [hn])
      · rw [if_neg hlast] at hall
        refine ⟨String.ofList (c :: rest), plainWord_cons.mpr ⟨hc, hall⟩, .inl ?_⟩
        exact String.toList_injective (by simp [hn])
  · rintro ⟨word, hword, hname⟩
    obtain ⟨cs, rfl⟩ : ∃ cs, word = String.ofList cs := ⟨word.toList, String.ofList_toList.symm⟩
    cases cs with
    | nil => exact absurd rfl hword.nonempty
    | cons c rest =>
      obtain ⟨hc, hall⟩ := plainWord_cons.mp hword
      rcases hname with rfl | rfl
      · have hlast : rest.getLast? ≠ some '\n' := by
          intro hlast
          have hbreak := List.all_eq_true.mp hall _ (List.mem_of_getLast? hlast)
          exact absurd hbreak (by decide)
        simp [isIdentifier, hlast, hc, hall]
      · simp [isIdentifier, hc, hall]

theorem PassesForName.length_pos {name : String} (h : PassesForName name) : 1 ≤ name.length := by
  obtain ⟨word, hword, rfl | rfl⟩ := h
  · exact Nat.pos_of_ne_zero fun hzero => hword.nonempty (String.length_eq_zero_iff.mp hzero)
  · rw [String.length_append]
    exact Nat.le_add_left 1 word.length

/-! ## Descriptors -/

theorem nameProblems_nil_iff {role : NameRole} {name : String} : nameProblems role name = [] ↔
    isIdentifier name = true ∧ name.length ≤ maxIdentifierLength := by
  refine ⟨nameProblems_nil, fun ⟨hname, hlength⟩ => ?_⟩
  simp [nameProblems, hname, Nat.not_lt.mpr hlength]

theorem repeatedFields_of_nodup {names : List String} (h : names.Nodup) :
    repeatedFields names = [] := by
  refine List.filterMap_eq_nil_iff.mpr fun n _ => if_neg ?_
  exact Nat.not_lt.mpr (List.nodup_iff_count_le_one.mp h n)

/-- A descriptor is accepted if its names pass and nothing is a problem of one of its fields. -/
theorem Descriptor.accepted_of {d : Descriptor} (hname : nameProblems .entity d.name = [])
    (hdistinct : d.fieldNames.Nodup) (hfields : ∀ f ∈ d.fields, fieldProblems f = .ok []) :
    d.Accepted := by
  have hm : d.fields.mapM fieldProblems = .ok (d.fields.map fun _ => []) := by
    rw [mapM_ok_iff, List.forall₂_map_right_iff, List.forall₂_same]
    exact hfields
  have hflat : (d.fields.map fun _ => ([] : List DescriptorProblem)).flatten = [] := by simp
  simp only [Descriptor.Accepted, Descriptor.problems, hm, ok_bind, hname,
    repeatedFields_of_nodup hdistinct, hflat]
  rfl

/-- A field of truth values, with a key or an index if it asks for them. -/
def flagged (name : String) (unique index : Bool) : Field :=
  { name := name, kind := .boolean, storage := { unique := unique, index := index } }

/-- Of such a field nothing but its name can be a problem. -/
theorem fieldProblems_flagged {name : String} {unique index : Bool}
    (h : nameProblems .field name = []) (himplicit : name ∉ implicitColumns) :
    fieldProblems (flagged name unique index) = .ok [] := by
  have hown : fieldProblems (flagged name unique index) = .ok (nameProblems .field name ++
      (if implicitColumns.contains name then [.reservedName name] else []) ++ []) := rfl
  rw [hown, h]
  simp [himplicit]

/-! ## Tables -/

namespace Store

/-- What is told of a name that no table can have. -/
def refusedName (name : String) : Failure :=
  queryFailure ("Invalid table name '" ++ name ++ "'") [("table_name", .text name)]

/-- An engine that cannot be made is no fault of a query. -/
theorem engineTarget_noQuery (link : Link) (files : Files) :
    FailsOnly (fun f => ∀ message context, f ≠ .noted .query message context)
      (link.engineTarget files) := by
  have hpassword : FailsOnly (fun f => ∀ message context, f ≠ .noted .query message context)
      (link.settings.password files) := by
    unfold Settings.password
    split
    · exact failsOnly_ok _
    · split
      · exact failsOnly_ok _
      · exact failsOnly_error (by simp)
      · exact failsOnly_error (by simp)
  have htarget : FailsOnly (fun f => ∀ message context, f ≠ .noted .query message context)
      (link.settings.target files) := by
    unfold Settings.target Settings.targetWith
    split
    · split
      · exact failsOnly_ok _
      · exact failsOnly_error (by simp)
    · exact hpassword.map _
  unfold Link.engineTarget
  split
  · exact failsOnly_error (by simp)
  · rename_i f _ hf
    exact failsOnly_error (htarget f hf)
  · split
    · exact failsOnly_error (by simp)
    · split
      · exact failsOnly_error (by simp)
      · exact failsOnly_error (by simp)
      · exact failsOnly_ok _

/-- The reading of a table refuses a name exactly if the name does not pass. -/
theorem inspect_refused_iff (name : String) (s : Store) :
    ((inspect name).on s).1 = .error (refusedName name) ↔ ¬ isIdentifier name = true := by
  constructor
  · intro h hname
    simp only [inspect, hname, not_true_eq_false, if_false, Action.on_bind, engine_on] at h
    cases hu : s.link.engineTarget s.files with
    | error f =>
      simp only [hu, Except.error.injEq] at h
      exact engineTarget_noQuery s.link s.files f hu _ _ h
    | ok u =>
      simp only [hu, Action.on_get] at h
      split at h
      · cases h
      · cases h
  · intro hname
    simp [inspect, hname, refusedName]

end Store

/-! ## Names that pass -/

/-- The pattern is found in exactly the names that pass. If they are short enough they are names of
entities and, the columns of every table aside, of fields; and exactly for them a store is asked
about a table. -/
theorem names_pass_iff (name : String) :
    (∃ p, Pattern.compile Pattern.namePattern = .ok p ∧ (p.search name = true ↔ PassesForName name)) ∧
    ((∃ d : Descriptor, d.Accepted ∧ d.name = name) ↔
      PassesForName name ∧ 1 ≤ name.length ∧ name.length ≤ 63) ∧
    ((∃ d : Descriptor, d.Accepted ∧ name ∈ d.fieldNames) ↔
      (PassesForName name ∧ 1 ≤ name.length ∧ name.length ≤ 63) ∧ name ∉ implicitColumns) ∧
    ∀ s : Store, ((Store.inspect name).on s).1 ≠ .error (Store.refusedName name) ↔
      PassesForName name := by
  have hnames : ∀ role, nameProblems role name = [] ↔
      PassesForName name ∧ 1 ≤ name.length ∧ name.length ≤ 63 := by
    intro role
    rw [nameProblems_nil_iff, isIdentifier_iff]
    exact and_congr_right fun hname => ⟨fun h => ⟨hname.length_pos, h⟩, fun h => h.2⟩
  refine ⟨⟨_, Pattern.compile_namePattern, ?_⟩, ?_, ?_, ?_⟩
  · rw [Pattern.search_nameExpr, isIdentifier_iff]
  · rw [← hnames .entity]
    constructor
    · rintro ⟨d, hd, rfl⟩
      exact hd.problems.1
    · intro h
      exact ⟨{ name := name }, Descriptor.accepted_of h List.nodup_nil (by simp), rfl⟩
  · rw [← hnames .field]
    constructor
    · rintro ⟨d, hd, hname⟩
      obtain ⟨f, hf, rfl⟩ := List.mem_map.mp hname
      exact ⟨nameProblems_nil_iff.mpr (hd.sound hf).name, (hd.sound hf).notImplicit⟩
    · rintro ⟨h, himplicit⟩
      have hentity : nameProblems .entity "t" = [] := by decide
      refine ⟨{ name := "t", fields := [flagged name false false] }, Descriptor.accepted_of hentity
        (List.nodup_singleton _) ?_, List.mem_singleton_self _⟩
      simpa using fieldProblems_flagged h himplicit
  · intro s
    rw [Ne, Store.inspect_refused_iff, not_not, isIdentifier_iff]

/-- A line break behind a word passes, and is no letter, digit or underscore. -/
theorem broken_word_passes : ({ name := "t\n" } : Descriptor).Accepted ∧
    (∀ s : Store, ((Store.inspect "t\n").on s).1 ≠ .error (Store.refusedName "t\n")) ∧
    ¬ ∀ name, (∃ d : Descriptor, d.Accepted ∧ d.name = name) → ∀ c ∈ name.toList,
      isIdentifierChar c = true := by
  have haccepted : ({ name := "t\n" } : Descriptor).Accepted :=
    Descriptor.accepted_of (by decide) List.nodup_nil (by simp)
  refine ⟨haccepted, fun s h => Store.inspect_refused_iff .. |>.mp h (by decide), fun h => ?_⟩
  exact absurd (h "t\n" ⟨_, haccepted, rfl⟩ '\n' (by decide)) (by decide)

end EntityStore
