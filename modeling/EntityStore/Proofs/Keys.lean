import EntityStore.Proofs.Storable

/-! # Keys

No two rows of a table share a key. A row that would do so is refused, and the failure names the
column of the key.
-/
namespace EntityStore

open Database

/-! ## Equality of cells -/

namespace Database.Cell

theorem Magnitude.compare_swap (a b : Magnitude) : a.compare b = (b.compare a).swap := by
  cases a <;> cases b <;> simp only [Magnitude.compare, Ordering.swap]
  exact Std.OrientedCmp.eq_swap

theorem compare_swap (a b : Cell) : a.compare b = (b.compare a).swap := by
  cases a <;> cases b <;> simp only [compare, Ordering.swap] <;>
    first
    | exact Std.OrientedCmp.eq_swap
    | exact Magnitude.compare_swap _ _

theorem equals_comm (a b : Cell) : a.equals b = b.equals a := by
  have h : (a.compare b = .eq) = (b.compare a = .eq) := by
    rw [compare_swap a b]
    cases b.compare a <;> simp
  simp only [equals, h, Bool.and_comm a.isNull.not]

@[simp] theorem equals_null (a : Cell) : a.equals .null = false := by simp [equals, isNull]

end Database.Cell

/-! ## Messages -/

/-- What a marker has and a text has not keeps the marker out of the text. -/
theorem afterMarker?_none {α : Type} {marker : List Char} {c : Char} {l : List Char}
    (hc : c ∈ marker) (hl : c ∉ l) (read : List Char → Option α) :
    afterMarker? marker read l = none := by
  induction l with
  | nil =>
    have hm : marker.isEmpty = false := by
      cases marker with
      | nil => cases hc
      | cons => rfl
    simp [afterMarker?, hm]
  | cons d l ih =>
    have hp : marker.isPrefixOf (d :: l) = false := by
      rw [Bool.eq_false_iff]
      intro h
      exact hl ((List.isPrefixOf_iff_prefix.mp h).subset hc)
    rw [afterMarker?, hp]
    simp [ih fun h => hl (List.mem_cons_of_mem _ h)]

/-- A marker that begins a text is found there. -/
theorem afterMarker?_append {α : Type} {marker l : List Char} {a : α} {read : List Char → Option α}
    (hm : marker ≠ []) (h : read l = some a) : afterMarker? marker read (marker ++ l) = some a := by
  cases marker with
  | nil => exact absurd rfl hm
  | cons c marker =>
    have hp : (c :: marker).isPrefixOf (c :: (marker ++ l)) = true :=
      List.isPrefixOf_iff_prefix.mpr (List.prefix_append (c :: marker) l)
    rw [List.cons_append, afterMarker?, hp]
    simp [h]

/-- A name of ASCII letters, digits and underscores only. -/
def isWord (name : String) : Bool := name.toList.all isIdentifierChar

theorem identifier_bounds {c : Char} (h : isIdentifierChar c = true) :
    48 ≤ c.toNat ∧ c.toNat < 128 := by
  delta isIdentifierChar Char.isAlphanum Char.isAlpha Char.isUpper Char.isLower Char.isDigit at h
  simp only [Bool.or_eq_true, Bool.and_eq_true, decide_eq_true_eq, ge_iff_le,
    UInt32.le_iff_toNat_le] at h
  rcases h with ((⟨hl, hu⟩ | ⟨hl, hu⟩) | ⟨hl, hu⟩) | rfl
  · exact ⟨le_trans (by decide) hl, lt_of_le_of_lt hu (by decide)⟩
  · exact ⟨le_trans (by decide) hl, lt_of_le_of_lt hu (by decide)⟩
  · exact ⟨hl, lt_of_le_of_lt hu (by decide)⟩
  · decide

theorem isWordChar_identifier {c : Char} (h : isIdentifierChar c = true) : isWordChar c = true := by
  rw [isWordChar, if_pos (identifier_bounds h).2]
  exact h

theorem isBlank_identifier {c : Char} (h : isIdentifierChar c = true) : isBlank c = false := by
  have hbounds := identifier_bounds h
  simp only [isBlank, isWhiteSpace]
  simp
  omega

section Words

variable {name : String} (h : isWord name = true)

include h

theorem isIdentifierChar_of_word {c : Char} (hc : c ∈ name.toList) : isIdentifierChar c = true :=
  List.all_eq_true.mp h c hc

theorem not_mem_word {c : Char} (hc : isIdentifierChar c = false) : c ∉ name.toList := by
  intro hm
  rw [isIdentifierChar_of_word h hm] at hc
  cases hc

theorem denoted_word : denoted name = name := denoted_eq_self (not_mem_word h (by decide))

end Words

theorem pathColumns?_words {table column : String} (ht : isWord table = true)
    (hc : isWord column = true) : pathColumns? (table.toList ++ '.' :: column.toList) =
      some (table.toList ++ '.' :: column.toList) := by
  have hall : ∀ c ∈ table.toList ++ '.' :: column.toList,
      (isWordChar c || decide (c = '.')) = true := by
    intro c hm
    rcases List.mem_append.mp hm with hm | hm
    · rw [isWordChar_identifier (isIdentifierChar_of_word ht hm), Bool.true_or]
    · rcases List.mem_cons.mp hm with rfl | hm
      · simp
      · rw [isWordChar_identifier (isIdentifierChar_of_word hc hm), Bool.true_or]
  rw [pathColumns?, List.takeWhile_eq_self_iff.mpr hall]
  simp

/-- The column of a repeated key is read from the message. -/
theorem uniqueField?_message {table column : String} (ht : isWord table = true)
    (hc : isWord column = true) :
    uniqueField? (uniqueMarker ++ ": " ++ table ++ "." ++ column) = some column := by
  have hl : (uniqueMarker ++ ": " ++ table ++ "." ++ column).toList =
      (uniqueMarker ++ ": ").toList ++ (table.toList ++ '.' :: column.toList) := by
    simp
  have hkey : '(' ∉ (uniqueMarker ++ ": ").toList ++ (table.toList ++ '.' :: column.toList) := by
    simp only [List.mem_append, List.mem_cons, not_or]
    exact ⟨by decide, not_mem_word ht (by decide), by decide, not_mem_word hc (by decide)⟩
  have hlast : ((table.toList ++ '.' :: column.toList).reverse.takeWhile (· ≠ '.')).reverse =
      column.toList := by
    rw [List.reverse_append, List.reverse_cons, List.append_assoc, List.takeWhile_append_of_pos]
    · simp
    · intro c hm
      simpa using fun he : c = '.' =>
        not_mem_word hc (show isIdentifierChar '.' = false by decide) (he ▸ List.mem_reverse.mp hm)
  rw [uniqueField?, hl, afterMarker?_none (by decide) hkey,
    afterMarker?_append (by decide) (pathColumns?_words ht hc)]
  simp only [Option.map_some, hlast, String.ofList_toList]

/-- An entity whose names are words and whose defaults pass their own rules. -/
structure Descriptor.Tame (d : Descriptor) : Prop where
  accepted : d.Accepted
  name : isWord d.name = true
  fields : ∀ f ∈ d.fields, isWord f.name = true
  defaults : ∀ f ∈ d.fields, ∀ y, f.storage.default = some y → ∃ x, Rule.value f y.toValue = .ok x

section Columns

variable {d : Descriptor} {tbl : Table}

/-- The keys of a table are the unique fields and the id. -/
theorem mem_keyColumns (hd : d.Tame) (ht : tbl.schema = (TableSchema.ofDescriptor d).made)
    {column : String} : column ∈ tbl.keyColumns ↔
      column = "id" ∨ ∃ f ∈ d.fields, f.storage.unique = true ∧ column = f.name := by
  have hkeys : tbl.schema.uniqueKeys.map (·.column) =
      (d.fields.filter (·.storage.unique)).map (·.name) := by
    simp only [ht, TableSchema.made, TableSchema.rename, TableSchema.ofDescriptor, List.map_map]
    refine List.map_congr_left ?_
    intro f hf
    exact denoted_word (hd.fields f (List.mem_of_mem_filter hf))
  rw [Table.keyColumns, hkeys]
  simp only [List.mem_append, List.mem_reverse, List.mem_map, List.mem_filter, List.mem_singleton,
    Table.idColumn]
  constructor
  · rintro (⟨f, ⟨hf, hu⟩, rfl⟩ | rfl)
    · exact .inr ⟨f, hf, hu, rfl⟩
    · exact .inl rfl
  · rintro (rfl | ⟨f, hf, hu, rfl⟩)
    · exact .inr rfl
    · exact .inl ⟨f, ⟨hf, hu⟩, rfl⟩

end Columns

end EntityStore
