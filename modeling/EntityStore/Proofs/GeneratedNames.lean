import EntityStore.Proofs.Naming
import EntityStore.Proofs.Spelling
import EntityStore.Schema.Table

/-! # Generated names

A generated name that is too long is cut, and the digits behind the cut are taken from its digest.
So the names of one entity are bounded, but they are not all different: a name may be cut to what
another one is in full, and two names that are cut may be kept alike. Nothing else makes two of them
equal.
-/
namespace EntityStore

/-! ## Digests -/

namespace Sha1

theorem addWords_lt (a b : ℕ) : addWords a b < 2 ^ 32 := Nat.mod_lt _ (by decide)

theorem compress_lt (s : State) (block : List ℕ) : (compress s block).a < 2 ^ 32 := addWords_lt _ _

theorem blocks_lt (n : ℕ) (ws : List ℕ) {s : State} (h : s.a < 2 ^ 32) :
    (blocks n ws s).a < 2 ^ 32 := by
  induction n generalizing ws s with
  | zero => exact h
  | succ n ih => exact ih _ (compress_lt s _)

theorem digest_lt (bytes : List UInt8) : (digest bytes).a < 2 ^ 32 := blocks_lt _ _ (by decide)

end Sha1

theorem Quoted.length_hex {width n : ℕ} (h : n < 16 ^ width) (hw : 0 < width) :
    (hex width n).length = width := by
  have hdigits : (Nat.toDigits 16 n).length ≤ width :=
    (Nat.length_toDigits_le_iff (by decide) hw).mpr h
  rw [hex, String.length_ofList, List.length_append, List.length_replicate]
  omega

theorem length_digestTail (name : String) : (digestTail name).length = 8 :=
  Quoted.length_hex (Sha1.digest_lt _) (by decide)

/-! ## Names that are cut -/

/-- What is kept of a name that is cut. -/
def keptName (name : String) : List Char := name.toList.take keptNameLength

/-- What a name that is too long is cut to. -/
def cutName (name : String) : String := String.ofList (keptName name) ++ "_" ++ digestTail name

variable {x y : String}

theorem boundedIdentifier_short (h : x.length ≤ maxIdentifierLength) : boundedIdentifier x = x :=
  if_pos h

theorem boundedIdentifier_long (h : maxIdentifierLength < x.length) :
    boundedIdentifier x = cutName x := if_neg (Nat.not_le.mpr h)

theorem length_keptName (h : maxIdentifierLength < x.length) :
    (keptName x).length = keptNameLength := by
  rw [keptName, List.length_take, String.length_toList]
  exact min_eq_left (le_trans (by decide) h.le)

theorem length_cutName (h : maxIdentifierLength < x.length) :
    (cutName x).length = maxIdentifierLength := by
  rw [cutName, String.length_append, String.length_append, String.length_ofList, length_keptName h,
    length_digestTail]
  rfl

theorem length_boundedIdentifier_le (name : String) :
    (boundedIdentifier name).length ≤ maxIdentifierLength := by
  by_cases h : name.length ≤ maxIdentifierLength
  · rwa [boundedIdentifier_short h]
  · rw [boundedIdentifier_long (Nat.not_le.mp h), length_cutName (Nat.not_le.mp h)]

/-- Two names are cut alike if what is kept of them is the same, digits included. -/
theorem cutName_eq_iff (hx : maxIdentifierLength < x.length) (hy : maxIdentifierLength < y.length) :
    cutName x = cutName y ↔ keptName x = keptName y ∧ digestTail x = digestTail y := by
  rw [← String.toList_inj]
  simp only [cutName, String.toList_append, String.toList_ofList, List.append_assoc]
  constructor
  · intro h
    have hlength : (keptName x).length = (keptName y).length := by
      rw [length_keptName hx, length_keptName hy]
    obtain ⟨hkept, htail⟩ := List.append_inj h hlength
    exact ⟨hkept, String.toList_injective (List.append_cancel_left htail)⟩
  · rintro ⟨hkept, hdigits⟩
    rw [hkept, hdigits]

/-- How two different names come to one bounded name. -/
inductive Clash (x y : String) : Prop where
  | left (long : maxIdentifierLength < x.length) (taken : cutName x = y)
  | right (long : maxIdentifierLength < y.length) (taken : cutName y = x)
  | both (left : maxIdentifierLength < x.length) (right : maxIdentifierLength < y.length)
    (kept : keptName x = keptName y) (digits : digestTail x = digestTail y)

theorem boundedIdentifier_eq_iff (hne : x ≠ y) :
    boundedIdentifier x = boundedIdentifier y ↔ Clash x y := by
  constructor
  · intro h
    by_cases hx : x.length ≤ maxIdentifierLength
    · by_cases hy : y.length ≤ maxIdentifierLength
      · rw [boundedIdentifier_short hx, boundedIdentifier_short hy] at h
        exact absurd h hne
      · rw [boundedIdentifier_short hx, boundedIdentifier_long (Nat.not_le.mp hy)] at h
        exact .right (Nat.not_le.mp hy) h.symm
    · rw [boundedIdentifier_long (Nat.not_le.mp hx)] at h
      by_cases hy : y.length ≤ maxIdentifierLength
      · rw [boundedIdentifier_short hy] at h
        exact .left (Nat.not_le.mp hx) h
      · rw [boundedIdentifier_long (Nat.not_le.mp hy)] at h
        obtain ⟨hkept, hdigits⟩ := (cutName_eq_iff (Nat.not_le.mp hx) (Nat.not_le.mp hy)).mp h
        exact .both (Nat.not_le.mp hx) (Nat.not_le.mp hy) hkept hdigits
  · intro h
    cases h with
    | left long taken =>
      rw [boundedIdentifier_long long, ← taken, boundedIdentifier_short (length_cutName long).le]
    | right long taken =>
      rw [boundedIdentifier_long long, ← taken, boundedIdentifier_short (length_cutName long).le]
    | both left right kept digits =>
      rw [boundedIdentifier_long left, boundedIdentifier_long right]
      exact (cutName_eq_iff left right).mpr ⟨kept, digits⟩

/-! ## Words -/

theorem PlainWord.append {word more : String} (h : PlainWord word) (hmore : isWord more = true) :
    PlainWord (word ++ more) := by
  obtain ⟨cs, rfl⟩ : ∃ cs, word = String.ofList cs := ⟨word.toList, String.ofList_toList.symm⟩
  cases cs with
  | nil => exact absurd rfl h.nonempty
  | cons c rest =>
    obtain ⟨hc, hrest⟩ := plainWord_cons.mp h
    have hlist : String.ofList (c :: rest) ++ more = String.ofList (c :: (rest ++ more.toList)) :=
      String.toList_injective (by simp)
    rw [hlist]
    exact plainWord_cons.mpr ⟨hc, by rw [List.all_append, hrest]; exact hmore⟩

theorem isWord_digestTail (name : String) : isWord (digestTail name) = true :=
  List.all_eq_true.mpr isIdentifierChar_hex

/-- What is kept of a word is a word, and so are the digits behind it. -/
theorem PlainWord.bounded {name : String} (h : PlainWord name) :
    PlainWord (boundedIdentifier name) := by
  by_cases hshort : name.length ≤ maxIdentifierLength
  · rwa [boundedIdentifier_short hshort]
  rw [boundedIdentifier_long (Nat.not_le.mp hshort)]
  have hkept : PlainWord (String.ofList (keptName name)) := by
    rw [← String.ofList_toList (s := name)] at h
    rw [keptName]
    cases hname : name.toList with
    | nil =>
      rw [hname] at h
      exact absurd rfl h.nonempty
    | cons c rest =>
      rw [hname] at h
      obtain ⟨hc, hrest⟩ := plainWord_cons.mp h
      refine plainWord_cons.mpr ⟨hc, List.all_eq_true.mpr fun d hd => ?_⟩
      exact List.all_eq_true.mp hrest d (List.mem_of_mem_take hd)
  exact (hkept.append (by decide)).append (isWord_digestTail name)

/-! ## Names of an entity -/

/-- A generated name in full: what it names, the entity, and what it stands at. -/
def fullName (kind entity place : String) : String := kind ++ entity ++ "_" ++ place

theorem indexName_eq (entity field : String) :
    indexName entity field = boundedIdentifier (fullName "idx_" entity field) := rfl

theorem constraintName_eq (entity field : String) :
    constraintName entity field = boundedIdentifier (fullName "uq_" entity field) := rfl

theorem triggerName_eq (entity : String) :
    triggerName entity = boundedIdentifier (fullName "trg_" entity "updated_at") := by
  have hplace : "_updated_at" = "_" ++ "updated_at" := rfl
  rw [triggerName, fullName, hplace, ← String.append_assoc]

theorem fullName_inj {kind entity place place' : String} :
    fullName kind entity place = fullName kind entity place' ↔ place = place' := by
  simp only [fullName, ← String.toList_inj, String.toList_append, List.append_cancel_left_eq]

/-- A generated name is a word of bounded length, and the full name where that is short enough. -/
structure Bounds (full name : String) : Prop where
  word : PlainWord name
  length : name.length ≤ 63
  whole : full.length ≤ 63 → name = full

theorem plainWord_kind : ∀ kind ∈ ["trg_", "idx_", "uq_"], PlainWord kind := by
  simp only [plainWord_iff]
  decide

theorem bounds_fullName {kind entity place : String} (hkind : PlainWord kind)
    (hentity : isWord entity = true) (hplace : isWord place = true) :
    Bounds (fullName kind entity place) (boundedIdentifier (fullName kind entity place)) where
  word := (((hkind.append hentity).append (by decide)).append hplace).bounded
  length := length_boundedIdentifier_le _
  whole := boundedIdentifier_short

/-- Two fields come to one name exactly if their full names clash. -/
theorem bounded_fullName_eq_iff {kind entity place place' : String} (h : place ≠ place') :
    boundedIdentifier (fullName kind entity place) =
        boundedIdentifier (fullName kind entity place') ↔
      Clash (fullName kind entity place) (fullName kind entity place') :=
  boundedIdentifier_eq_iff fun he => h (fullName_inj.mp he)

namespace Descriptor

variable {d : Descriptor}

/-- Every name in the descriptor is a word. -/
def PlainNames (d : Descriptor) : Prop :=
  isWord d.name = true ∧ ∀ f ∈ d.fields, isWord f.name = true

/-- The names that some fields are given differ exactly if no two of the fields clash. -/
theorem Accepted.names_nodup_iff (hd : d.Accepted) (kind : String) (asks : Field → Bool) :
    ((d.fields.filter asks).map fun f => boundedIdentifier (fullName kind d.name f.name)).Nodup ↔
      ∀ f ∈ d.fields, ∀ g ∈ d.fields, asks f = true → asks g = true → f.name ≠ g.name →
        ¬ Clash (fullName kind d.name f.name) (fullName kind d.name g.name) := by
  have hfields : (d.fields.filter asks).Nodup := hd.distinct.of_map.filter _
  rw [List.nodup_map_iff_inj_on hfields]
  simp only [List.mem_filter]
  constructor
  · intro h f hf g hg haf hag hne hclash
    refine hne (congrArg Field.name (h f ⟨hf, haf⟩ g ⟨hg, hag⟩ ?_))
    exact (bounded_fullName_eq_iff hne).mpr hclash
  · intro h f hf g hg heq
    by_contra hne
    have hname : f.name ≠ g.name := fun hn => hne (hd.field_eq hf.1 hg.1 hn)
    exact h f hf.1 g hg.1 hf.2 hg.2 hname ((bounded_fullName_eq_iff hname).mp heq)

/-- Generated names are bounded words. The indexes of a table have different names, and so have its
keys, exactly if no two of their fields have full names that clash. -/
theorem generated_names (hd : d.Accepted) (hw : d.PlainNames) :
    (Bounds (fullName "trg_" d.name "updated_at") (TableSchema.ofDescriptor d).trigger ∧
      ∀ f ∈ d.fields, Bounds (fullName "idx_" d.name f.name) (indexName d.name f.name) ∧
        Bounds (fullName "uq_" d.name f.name) (constraintName d.name f.name)) ∧
    (∀ f ∈ d.fields, ∀ g ∈ d.fields, f.name ≠ g.name →
      (indexName d.name f.name = indexName d.name g.name ↔
        Clash (fullName "idx_" d.name f.name) (fullName "idx_" d.name g.name)) ∧
      (constraintName d.name f.name = constraintName d.name g.name ↔
        Clash (fullName "uq_" d.name f.name) (fullName "uq_" d.name g.name))) ∧
    (((TableSchema.ofDescriptor d).indexes.map (·.name)).Nodup ↔
      ∀ f ∈ d.fields, ∀ g ∈ d.fields, f.storage.index = true → g.storage.index = true →
        f.name ≠ g.name → ¬ Clash (fullName "idx_" d.name f.name) (fullName "idx_" d.name g.name)) ∧
    (((TableSchema.ofDescriptor d).uniqueKeys.map (·.name)).Nodup ↔
      ∀ f ∈ d.fields, ∀ g ∈ d.fields, f.storage.unique = true → g.storage.unique = true →
        f.name ≠ g.name → ¬ Clash (fullName "uq_" d.name f.name) (fullName "uq_" d.name g.name)) := by
  refine ⟨⟨?_, fun f hf => ⟨?_, ?_⟩⟩, fun f _ g _ hne => ⟨?_, ?_⟩, ?_, ?_⟩
  · rw [TableSchema.ofDescriptor, triggerName_eq]
    exact bounds_fullName (plainWord_kind _ (by simp)) hw.1 (by decide)
  · rw [indexName_eq]
    exact bounds_fullName (plainWord_kind _ (by simp)) hw.1 (hw.2 f hf)
  · rw [constraintName_eq]
    exact bounds_fullName (plainWord_kind _ (by simp)) hw.1 (hw.2 f hf)
  · rw [indexName_eq, indexName_eq]
    exact bounded_fullName_eq_iff hne
  · rw [constraintName_eq, constraintName_eq]
    exact bounded_fullName_eq_iff hne
  · rw [← hd.names_nodup_iff "idx_" (·.storage.index), TableSchema.ofDescriptor, List.map_map]
    rfl
  · rw [← hd.names_nodup_iff "uq_" (·.storage.unique), TableSchema.ofDescriptor, List.map_map]
    rfl

def longFlag : String := "aaaaaaaaaaaaaaaaaaaaaaaaaaaaaaaaaaaaaaaaaaaaaaaaaaaaaaaaaaa"

/-- What the index name of the long one is cut to, less what stands in front of a field. -/
def indexTwin : String := "aaaaaaaaaaaaaaaaaaaaaaaaaaaaaaaaaaaaaaaaaaaaaaaa_49741206"

def keyTwin : String := "aaaaaaaaaaaaaaaaaaaaaaaaaaaaaaaaaaaaaaaaaaaaaaaaa_2b1565e8"

def crowded : Descriptor :=
  { name := "t", fields := [flagged longFlag true true, flagged indexTwin false true,
    flagged keyTwin true false] }

theorem crowded_accepted : crowded.Accepted := by
  have hproblems : ∀ name ∈ [longFlag, indexTwin, keyTwin],
      nameProblems .field name = [] ∧ name ∉ implicitColumns := by decide +kernel
  refine accepted_of (by decide) (by decide +kernel) ?_
  intro f hf
  simp only [crowded, List.mem_cons, List.not_mem_nil, or_false] at hf
  rcases hf with rfl | rfl | rfl
  · exact fieldProblems_flagged (hproblems _ (by simp)).1 (hproblems _ (by simp)).2
  · exact fieldProblems_flagged (hproblems _ (by simp)).1 (hproblems _ (by simp)).2
  · exact fieldProblems_flagged (hproblems _ (by simp)).1 (hproblems _ (by simp)).2

theorem crowded_plainNames : crowded.PlainNames := by
  unfold PlainNames
  decide +kernel

theorem index_twins : indexName "t" longFlag = indexName "t" indexTwin := by decide +kernel

theorem key_twins : constraintName "t" longFlag = constraintName "t" keyTwin := by decide +kernel

theorem crowded_names : crowded.Accepted ∧ crowded.PlainNames ∧
    Bounds (fullName "trg_" "t" "updated_at") (TableSchema.ofDescriptor crowded).trigger ∧
    Clash (fullName "idx_" "t" longFlag) (fullName "idx_" "t" indexTwin) := by
  have hnames := generated_names crowded_accepted crowded_plainNames
  refine ⟨crowded_accepted, crowded_plainNames, hnames.1.1, ?_⟩
  exact (hnames.2.1 (flagged longFlag true true) (by simp [crowded]) (flagged indexTwin false true)
    (by simp [crowded]) (by decide +kernel)).1.mp index_twins

/-- The names of one field are cut to what two others have in full, so the table has two indexes of
one name. -/
theorem crowded_names_clash :
    crowded.Accepted ∧ crowded.PlainNames ∧ longFlag ≠ indexTwin ∧ longFlag ≠ keyTwin ∧
    indexName "t" longFlag = indexName "t" indexTwin ∧
    constraintName "t" longFlag = constraintName "t" keyTwin ∧
    ¬ ((TableSchema.ofDescriptor crowded).indexes.map (·.name)).Nodup := by
  refine ⟨crowded_accepted, crowded_plainNames, by decide, by decide, index_twins, key_twins, ?_⟩
  have hnames : (TableSchema.ofDescriptor crowded).indexes.map (·.name) =
      [indexName "t" longFlag, indexName "t" indexTwin] := rfl
  rw [hnames, index_twins]
  simp

end Descriptor

end EntityStore
