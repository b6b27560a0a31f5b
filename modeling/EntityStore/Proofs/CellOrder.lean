import EntityStore.Database.Query
import EntityStore.Proofs.BinaryValue
import Mathlib.Data.Prod.Lex
import Mathlib.Data.String.Basic
import Mathlib.Data.Sum.Order
import Mathlib.Order.Compare
import Mathlib.Order.WithBot

/-! # The order of rows

Cells are ordered by their rank in one linear order: nothing first, then the numbers by their value,
then the texts. So a sort order of rows is total, and its two directions are each other's reverse.
-/
namespace EntityStore

open Database

namespace Database

/-! ## Ranks of cells -/

/-- Fractions, with one place below and one above all of them. -/
abbrev Level := WithBot (WithTop ℚ)

/-- The place of a cell in the order of all cells. -/
abbrev Rank := WithBot (Level ⊕ₗ String)

theorem compare_compares {α : Type} [LinearOrder α] (a b : α) :
    (Ord.compare a b).Compares a b := by
  rw [← cmp_eq_compare]
  exact cmp_compares a b

namespace Cell

/-- A magnitude whose fraction has a denominator. -/
inductive Magnitude.Proper : Magnitude → Prop where
  | below : Proper .below
  | ratio (num : ℤ) {den : ℕ} (pos : 0 < den) : Proper (.ratio num den)
  | above : Proper .above

def Magnitude.level : Magnitude → Level
  | .below => ⊥
  | .ratio num den => (((num : ℚ) / den : ℚ) : WithTop ℚ)
  | .above => ((⊤ : WithTop ℚ) : Level)

theorem Magnitude.compare_level {a b : Magnitude} (ha : a.Proper) (hb : b.Proper) :
    (a.compare b).Compares a.level b.level := by
  cases ha with
  | below =>
    cases hb with
    | below => exact rfl
    | ratio num hd => exact WithBot.bot_lt_coe _
    | above => exact WithBot.bot_lt_coe _
  | above =>
    cases hb with
    | below => exact WithBot.bot_lt_coe _
    | ratio num hd => exact WithBot.coe_lt_coe.mpr (WithTop.coe_lt_top _)
    | above => exact rfl
  | @ratio m d hd =>
    cases hb with
    | below => exact WithBot.bot_lt_coe _
    | above => exact WithBot.coe_lt_coe.mpr (WithTop.coe_lt_top _)
    | @ratio n k hk =>
      have hdq : (0 : ℚ) < d := by exact_mod_cast hd
      have hkq : (0 : ℚ) < k := by exact_mod_cast hk
      -- the fractions compare as the products across
      have hlt : ∀ {i j : ℤ} {p q : ℕ}, (0 : ℚ) < p → (0 : ℚ) < q →
          ((i : ℚ) / p < (j : ℚ) / q ↔ i * (q : ℤ) < j * (p : ℤ)) := by
        intro i j p q hp hq
        rw [div_lt_div_iff₀ hp hq]
        exact_mod_cast Iff.rfl
      have hcmp := compare_compares (m * (k : ℤ)) (n * (d : ℤ))
      simp only [Magnitude.compare, level]
      cases ho : Ord.compare (m * (k : ℤ)) (n * (d : ℤ)) with
      | lt =>
        rw [ho] at hcmp
        have : (m : ℚ) / d < (n : ℚ) / k := (hlt hdq hkq).mpr hcmp
        exact WithBot.coe_lt_coe.mpr (WithTop.coe_lt_coe.mpr this)
      | gt =>
        rw [ho] at hcmp
        have : (n : ℚ) / k < (m : ℚ) / d := (hlt hkq hdq).mpr hcmp
        exact WithBot.coe_lt_coe.mpr (WithTop.coe_lt_coe.mpr this)
      | eq =>
        rw [ho] at hcmp
        have hq : (m : ℚ) / d = (n : ℚ) / k := by
          rw [div_eq_div_iff hdq.ne' hkq.ne']
          exact_mod_cast hcmp
        exact congrArg (fun q : ℚ => ((q : WithTop ℚ) : Level)) hq

theorem magnitude_proper (x : Binary64) : (magnitude x).Proper := by
  cases x with
  | infinity negative =>
    cases negative
    · exact .above
    · exact .below
  | nan => exact .ratio 0 Nat.one_pos
  | finite s m e h =>
    obtain ⟨n, d, hr, hd, -⟩ := Binary64.ratio?_finite s m e h
    simp only [magnitude, hr]
    exact .ratio n hd

/-- Nothing comes first, then the numbers by their value, then the texts. -/
def rank : Cell → Rank
  | .null => ⊥
  | .int n => ((toLex (Sum.inl (Magnitude.ratio n 1).level) : Level ⊕ₗ String) : Rank)
  | .real x => ((toLex (Sum.inl (Cell.magnitude x).level) : Level ⊕ₗ String) : Rank)
  | .text s => ((toLex (Sum.inr s) : Level ⊕ₗ String) : Rank)

/-- Numbers compare as their magnitudes do. -/
theorem compares_numbers {a b : Magnitude} (ha : a.Proper) (hb : b.Proper) :
    (a.compare b).Compares ((toLex (Sum.inl a.level) : Level ⊕ₗ String) : Rank)
      ((toLex (Sum.inl b.level) : Level ⊕ₗ String) : Rank) := by
  have h := Magnitude.compare_level ha hb
  cases ho : a.compare b with
  | lt =>
    rw [ho] at h
    exact WithBot.coe_lt_coe.mpr (Sum.Lex.inl_lt_inl_iff.mpr h)
  | eq =>
    rw [ho] at h
    change a.level = b.level at h
    rw [h]
    exact rfl
  | gt =>
    rw [ho] at h
    exact WithBot.coe_lt_coe.mpr (Sum.Lex.inl_lt_inl_iff.mpr h)

theorem compares_texts (s t : String) :
    (Ord.compare s t).Compares ((toLex (Sum.inr s) : Level ⊕ₗ String) : Rank)
      ((toLex (Sum.inr t) : Level ⊕ₗ String) : Rank) := by
  have h := compare_compares s t
  cases ho : Ord.compare s t with
  | lt =>
    rw [ho] at h
    exact WithBot.coe_lt_coe.mpr (Sum.Lex.inr_lt_inr_iff.mpr h)
  | eq =>
    rw [ho] at h
    change s = t at h
    rw [h]
    exact rfl
  | gt =>
    rw [ho] at h
    exact WithBot.coe_lt_coe.mpr (Sum.Lex.inr_lt_inr_iff.mpr h)

/-- Cells compare as their ranks do. -/
theorem compare_rank (a b : Cell) : (a.compare b).Compares a.rank b.rank := by
  have hone : ∀ n : ℤ, (Magnitude.ratio n 1).Proper := fun n => .ratio n Nat.one_pos
  cases a with
  | null =>
    cases b with
    | null => exact rfl
    | _ => exact WithBot.bot_lt_coe _
  | int m =>
    cases b with
    | null => exact WithBot.bot_lt_coe _
    | int n =>
      have h := compares_numbers (hone m) (hone n)
      simp only [Magnitude.compare, Nat.cast_one, mul_one] at h
      exact h
    | real y => exact compares_numbers (hone m) (magnitude_proper y)
    | text t => exact WithBot.coe_lt_coe.mpr (Sum.Lex.inl_lt_inr _ _)
  | real x =>
    cases b with
    | null => exact WithBot.bot_lt_coe _
    | int n => exact compares_numbers (magnitude_proper x) (hone n)
    | real y => exact compares_numbers (magnitude_proper x) (magnitude_proper y)
    | text t => exact WithBot.coe_lt_coe.mpr (Sum.Lex.inl_lt_inr _ _)
  | text s =>
    cases b with
    | null => exact WithBot.bot_lt_coe _
    | text t => exact compares_texts s t
    | _ => exact WithBot.coe_lt_coe.mpr (Sum.Lex.inl_lt_inr _ _)

/-- Cells are equal as values exactly if they hold something and have one rank. -/
theorem equals_iff {a b : Cell} :
    a.equals b = true ↔ a.isNull = false ∧ b.isNull = false ∧ a.rank = b.rank := by
  have h : a.compare b = .eq ↔ a.rank = b.rank := (compare_rank a b).eq_eq
  simp [equals, and_assoc, h]

theorem rank_text_inj {s t : String} (h : (text s).rank = (text t).rank) : s = t := by
  have hl := toLex_inj.mp (WithBot.coe_inj.mp h)
  injection hl

end Cell

/-! ## Places of rows -/

namespace SortOrder

/-- The place of a row in the order of a column: that of its cell there, then that of its id. -/
def place (column : String) (t : Table) (row : Row) : Rank ×ₗ Rank :=
  toLex ((t.cell row column).rank, (t.cell row Table.idColumn).rank)

/-- Whether a row stands before another one. -/
def Before (order : SortOrder) (t : Table) (a b : Row) : Prop :=
  match order.direction with
  | .ascending => place order.column t a < place order.column t b
  | .descending => place order.column t b < place order.column t a

theorem compare_place (column : String) (t : Table) (a b : Row) :
    (SortOrder.compare ⟨column, .ascending⟩ t a b).Compares (place column t a) (place column t b) := by
  have h := Cell.compare_rank (t.cell a column) (t.cell b column)
  have hid := Cell.compare_rank (t.cell a Table.idColumn) (t.cell b Table.idColumn)
  simp only [compare, SortDirection.orient, place]
  cases ho : (t.cell a column).compare (t.cell b column) with
  | lt =>
    rw [ho] at h
    exact Prod.Lex.toLex_lt_toLex.mpr (.inl h)
  | gt =>
    rw [ho] at h
    exact Prod.Lex.toLex_lt_toLex.mpr (.inl h)
  | eq =>
    rw [ho] at h
    change (t.cell a column).rank = (t.cell b column).rank at h
    rw [h, Ordering.then]
    cases hi : (t.cell a Table.idColumn).compare (t.cell b Table.idColumn) with
    | lt =>
      rw [hi] at hid
      exact Prod.Lex.toLex_lt_toLex.mpr (.inr ⟨rfl, hid⟩)
    | gt =>
      rw [hi] at hid
      exact Prod.Lex.toLex_lt_toLex.mpr (.inr ⟨rfl, hid⟩)
    | eq =>
      rw [hi] at hid
      change (t.cell a Table.idColumn).rank = (t.cell b Table.idColumn).rank at hid
      rw [hid]
      exact rfl

variable {order : SortOrder} {t : Table} {a b : Row}

theorem compare_descending (column : String) (t : Table) (a b : Row) :
    SortOrder.compare ⟨column, .descending⟩ t a b =
      (SortOrder.compare ⟨column, .ascending⟩ t a b).swap := rfl

theorem compare_le_iff : order.compare t a b ≠ .gt ↔
    match order.direction with
    | .ascending => place order.column t a ≤ place order.column t b
    | .descending => place order.column t b ≤ place order.column t a := by
  obtain ⟨column, direction⟩ := order
  have h := compare_place column t a b
  cases direction with
  | ascending => exact h.ne_gt
  | descending =>
    rw [compare_descending]
    exact (Ordering.compares_swap.mpr h).ne_gt

/-- The rows in order. -/
def sorted (order : SortOrder) (t : Table) (rows : List Row) : List Row :=
  rows.mergeSort fun a b => order.compare t a b ≠ .gt

theorem sorted_perm (order : SortOrder) (t : Table) (rows : List Row) :
    (order.sorted t rows).Perm rows := List.mergeSort_perm _ _

/-- The rows of a page are rows that were sorted. -/
theorem mem_of_mem_cut {row : Row} {rows : List Row} {o n : ℕ}
    (h : row ∈ ((order.sorted t rows).drop o).take n) : row ∈ rows :=
  (sorted_perm order t rows).mem_iff.mp (List.mem_of_mem_drop (List.mem_of_mem_take h))

theorem sorted_pairwise (order : SortOrder) (t : Table) (rows : List Row) :
    (order.sorted t rows).Pairwise fun a b => order.compare t a b ≠ .gt := by
  have h := @List.pairwise_mergeSort Row (fun a b => decide (order.compare t a b ≠ .gt)) ?_ ?_ rows
  · exact h.imp of_decide_eq_true
  · intro a b c hab hbc
    rw [decide_eq_true_iff, compare_le_iff] at *
    cases hd : order.direction with
    | ascending =>
      rw [hd] at hab hbc
      exact le_trans hab hbc
    | descending =>
      rw [hd] at hab hbc
      exact le_trans hbc hab
  · intro a b
    rw [Bool.or_eq_true, decide_eq_true_iff, decide_eq_true_iff, compare_le_iff, compare_le_iff]
    cases order.direction with
    | ascending => exact le_total _ _
    | descending => exact le_total _ _

/-- Rows with ids of their own stand in a strict order. -/
theorem sorted_strict {rows : List Row}
    (h : rows.Pairwise fun a b => (t.cell a Table.idColumn).rank ≠ (t.cell b Table.idColumn).rank) :
    (order.sorted t rows).Pairwise (order.Before t) := by
  have hsymm : ∀ {a b : Row}, (t.cell a Table.idColumn).rank ≠ (t.cell b Table.idColumn).rank →
      (t.cell b Table.idColumn).rank ≠ (t.cell a Table.idColumn).rank := fun hne => hne.symm
  have hne := (sorted_perm order t rows).symm.pairwise h hsymm
  refine ((sorted_pairwise order t rows).and hne).imp ?_
  rintro a b ⟨hle, hid⟩
  rw [compare_le_iff] at hle
  have hplace : place order.column t a ≠ place order.column t b := by
    intro heq
    exact hid (Prod.mk.inj (toLex_inj.mp heq)).2
  unfold Before
  cases hd : order.direction with
  | ascending =>
    rw [hd] at hle
    exact lt_of_le_of_ne hle hplace
  | descending =>
    rw [hd] at hle
    exact lt_of_le_of_ne hle hplace.symm

/-- The two directions are each other's reverse. -/
theorem sorted_reverse {rows : List Row} (column : String)
    (h : rows.Pairwise fun a b => (t.cell a Table.idColumn).rank ≠ (t.cell b Table.idColumn).rank) :
    sorted ⟨column, .descending⟩ t rows = (sorted ⟨column, .ascending⟩ t rows).reverse := by
  have hdown := @sorted_strict ⟨column, .descending⟩ t rows h
  have hup := @sorted_strict ⟨column, .ascending⟩ t rows h
  refine List.Perm.eq_of_pairwise ?_ hdown (List.pairwise_reverse.mpr hup) ?_
  · intro a b _ _ hab hba
    exact absurd hab (lt_asymm hba)
  · exact (sorted_perm _ t rows).trans
      ((sorted_perm _ t rows).symm.trans (List.reverse_perm _).symm)

end SortOrder

end Database

end EntityStore
