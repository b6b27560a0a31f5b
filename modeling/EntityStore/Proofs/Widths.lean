import EntityStore.Console.Line
import Mathlib.Tactic

/-!
# Counting cells

Joiners and presentation marks change what the characters beside them take. Where they stand inside
words, the cells of a text are those of its parts, and the clusters of a text take as many cells as
their characters do.
-/

namespace EntityStore

namespace Console

/-- Each joiner and each presentation mark stands in a word, behind a character that takes cells,
and a joiner has one more character of its word behind it. The flag tells whether the word at hand
took cells already. -/
inductive AttachedFrom : Bool → List Char → Prop where
  | nil (s : Bool) : AttachedFrom s []
  | joined {d : Char} {rest : List Char} (hd : isBlank d = false) (h : AttachedFrom true rest) :
    AttachedFrom true (joiner :: d :: rest)
  | marked {rest : List Char} (h : AttachedFrom true rest) :
    AttachedFrom true (presentationMark :: rest)
  | other {s : Bool} {c : Char} {rest : List Char} (hj : c ≠ joiner) (hm : c ≠ presentationMark)
    (h : AttachedFrom (!isBlank c && (s || charWidth c != 0)) rest) : AttachedFrom s (c :: rest)

def Attached (cs : List Char) : Prop := AttachedFrom false cs

theorem ne_joiner_of_isBlank {c : Char} (h : isBlank c = true) : c ≠ joiner := by
  rintro rfl
  exact absurd h (by decide)

theorem ne_presentationMark_of_isBlank {c : Char} (h : isBlank c = true) :
    c ≠ presentationMark := by
  rintro rfl
  exact absurd h (by decide)

theorem charWidth_le_two (c : Char) : charWidth c ≤ 2 := by
  unfold charWidth
  split_ifs <;> decide

section Steps

variable {last : Option Char} {c : Char}

theorem widthFrom_joiner (d : Char) (rest : List Char) :
    widthFrom last (joiner :: d :: rest) = widthFrom last rest := by
  rw [widthFrom.eq_def]
  exact if_pos rfl

theorem widthFrom_mark (rest : List Char) :
    widthFrom last (presentationMark :: rest) =
      (if last.any widening.contains then 1 else 0) + widthFrom none rest := by
  rw [widthFrom.eq_def]
  refine ((if_neg (by decide)).trans (if_pos rfl)).trans ?_
  cases last <;> simp

theorem widthFrom_other (hj : c ≠ joiner) (hm : c ≠ presentationMark) (rest : List Char) :
    widthFrom last (c :: rest) =
      charWidth c + widthFrom (if charWidth c = 0 then last else some c) rest := by
  rw [widthFrom.eq_def]
  exact (if_neg hj).trans (if_neg hm)

variable {k : Cluster} {seen : List Cluster}

theorem clustersFrom_joiner (d : Char) (rest : List Char) :
    clustersFrom (k :: seen) last (joiner :: d :: rest) =
      clustersFrom (k.append [joiner, d] 0 :: seen) last rest := by
  rw [clustersFrom.eq_def]
  exact if_pos rfl

theorem clustersFrom_mark (rest : List Char) :
    clustersFrom (k :: seen) last (presentationMark :: rest) =
      clustersFrom (k.append [presentationMark] (if last.any widening.contains then 1 else 0)
        :: seen) none rest := by
  rw [clustersFrom.eq_def]
  exact (if_neg (by decide)).trans (if_pos rfl)

theorem clustersFrom_other (hj : c ≠ joiner) (hm : c ≠ presentationMark) (rest : List Char) :
    clustersFrom (k :: seen) last (c :: rest) =
      if charWidth c = 0 then clustersFrom (k.append [c] 0 :: seen) last rest
      else clustersFrom (.single c :: k :: seen) (some c) rest := by
  rw [clustersFrom.eq_def]
  exact (if_neg hj).trans (if_neg hm)

end Steps

/-! ## Parts of a text -/

section Parts

variable {s : Bool} {a b cs : List Char} {c : Char}

theorem AttachedFrom.mono {t : Bool} (hst : s = true → t = true) (h : AttachedFrom s cs) :
    AttachedFrom t cs := by
  induction h generalizing t with
  | nil => exact .nil t
  | joined hd h ih =>
    obtain rfl : t = true := hst rfl
    exact .joined hd h
  | marked h ih =>
    obtain rfl : t = true := hst rfl
    exact .marked h
  | other hj hm _ ih =>
    refine .other hj hm (ih ?_)
    simp only [Bool.and_eq_true, Bool.or_eq_true]
    exact fun ⟨hc, hs⟩ => ⟨hc, hs.imp_left hst⟩

theorem Attached.from (h : Attached cs) : AttachedFrom s cs := AttachedFrom.mono (by simp) h

theorem AttachedFrom.append (ha : AttachedFrom s a) (hb : Attached b) :
    AttachedFrom s (a ++ b) := by
  induction ha with
  | nil s => exact hb.from
  | joined hd _ ih => exact .joined hd ih
  | marked _ ih => exact .marked ih
  | other hj hm _ ih => exact .other hj hm ih

/-- A blank ends a word. -/
theorem attachedFrom_blank (hc : isBlank c = true) :
    AttachedFrom s (a ++ c :: b) ↔ AttachedFrom s a ∧ Attached b := by
  have hblank : ∀ t, AttachedFrom t (c :: b) ↔ Attached b := by
    intro t
    constructor
    · rintro (_ | _ | _ | ⟨-, -, h⟩)
      · exact absurd hc (by decide)
      · exact absurd hc (by decide)
      · simpa [hc, Attached] using h
    · intro h
      exact .other (ne_joiner_of_isBlank hc) (ne_presentationMark_of_isBlank hc) h.from
  constructor
  · intro h
    generalize he : a ++ c :: b = cs at h
    induction h generalizing a with
    | nil => simp at he
    | @joined d rest hd h ih =>
      rcases a with _ | ⟨x, _ | ⟨y, a⟩⟩
      · obtain ⟨rfl, -⟩ : c = joiner ∧ b = d :: rest := by simpa using he
        exact absurd hc (by decide)
      · obtain ⟨-, rfl, -⟩ : x = joiner ∧ c = d ∧ b = rest := by simpa using he
        simp [hc] at hd
      · obtain ⟨rfl, rfl, hab⟩ : x = joiner ∧ y = d ∧ a ++ c :: b = rest := by simpa using he
        exact ⟨.joined hd (ih hab).1, (ih hab).2⟩
    | @marked rest h ih =>
      rcases a with _ | ⟨x, a⟩
      · obtain ⟨rfl, -⟩ : c = presentationMark ∧ b = rest := by simpa using he
        exact absurd hc (by decide)
      · obtain ⟨rfl, hab⟩ : x = presentationMark ∧ a ++ c :: b = rest := by simpa using he
        exact ⟨.marked (ih hab).1, (ih hab).2⟩
    | @other s d rest hj hm h ih =>
      rcases a with _ | ⟨x, a⟩
      · obtain ⟨rfl, rfl⟩ : c = d ∧ b = rest := by simpa using he
        exact ⟨.nil _, (hblank s).mp (.other hj hm h)⟩
      · obtain ⟨rfl, hab⟩ : x = d ∧ a ++ c :: b = rest := by simpa using he
        exact ⟨.other hj hm (ih hab).1, (ih hab).2⟩
  · rintro ⟨ha, hb⟩
    exact ha.append ((hblank false).mpr hb)

theorem attached_blanks (h : ∀ c ∈ b, isBlank c = true) : Attached b := by
  induction b with
  | nil => exact .nil _
  | cons c b ih =>
    exact (attachedFrom_blank (a := []) (h c (by simp))).mpr
      ⟨.nil _, ih fun d hd => h d (by simp [hd])⟩

/-- Text without joiners and marks. -/
theorem attached_of_plain (h : ∀ c ∈ cs, c ≠ joiner ∧ c ≠ presentationMark) :
    AttachedFrom s cs := by
  induction cs generalizing s with
  | nil => exact .nil s
  | cons c cs ih =>
    exact .other (h c (by simp)).1 (h c (by simp)).2 (ih fun d hd => h d (by simp [hd]))

theorem attached_of_all (h : cs.all (fun c => c != joiner && c != presentationMark) = true) :
    Attached cs :=
  attached_of_plain fun c hc => by simpa using List.all_eq_true.mp h c hc

/-- Nothing that was seen before a word counts in it. -/
theorem AttachedFrom.widthFrom_eq {last last' : Option Char} (h : AttachedFrom s cs)
    (hlast : s = true → last = last') : widthFrom last cs = widthFrom last' cs := by
  induction h generalizing last last' with
  | nil => rfl
  | joined _ _ ih => rw [widthFrom_joiner, widthFrom_joiner, ih hlast]
  | marked _ _ => rw [hlast rfl]
  | @other s c rest hj hm _ ih =>
    rw [widthFrom_other hj hm, widthFrom_other hj hm]
    congr 1
    refine ih fun hs => ?_
    split_ifs with hw
    · simp only [hw, bne_self_eq_false, Bool.or_false, Bool.and_eq_true] at hs
      exact hlast hs.2
    · rfl

theorem AttachedFrom.widthFrom_append {last : Option Char} (ha : AttachedFrom s a)
    (hb : Attached b) : widthFrom last (a ++ b) = widthFrom last a + width b := by
  induction ha generalizing last with
  | nil =>
    rw [List.nil_append, widthFrom, Nat.zero_add]
    exact AttachedFrom.widthFrom_eq hb (by simp)
  | joined _ _ ih => rw [List.cons_append, List.cons_append, widthFrom_joiner, widthFrom_joiner, ih]
  | marked _ ih => rw [List.cons_append, widthFrom_mark, widthFrom_mark, ih, Nat.add_assoc]
  | other hj hm _ ih =>
    rw [List.cons_append, widthFrom_other hj hm, widthFrom_other hj hm, ih, Nat.add_assoc]

theorem Attached.width_append (ha : Attached a) (hb : Attached b) :
    width (a ++ b) = width a + width b :=
  AttachedFrom.widthFrom_append ha hb

theorem Attached.append (ha : Attached a) (hb : Attached b) : Attached (a ++ b) :=
  AttachedFrom.append ha hb

end Parts

/-! ## Clusters -/

theorem flatMap_clustersFrom (seen : List Cluster) (base : Option Char) (cs : List Char) :
    (clustersFrom seen base cs).flatMap Cluster.chars =
      seen.reverse.flatMap Cluster.chars ++ cs := by
  fun_induction clustersFrom seen base cs <;> simp_all [Cluster.append, Cluster.single]

/-- Clusters take a text apart without loss. -/
theorem flatMap_clusters (cs : List Char) : (clusters cs).flatMap Cluster.chars = cs := by
  simp [clusters, flatMap_clustersFrom]

namespace Cluster

variable {k : Cluster} {base : Option Char} {based : Bool} {c d : Char}

/-- A cluster that characters may still join: a mark would widen `base`, and the flag is the one of
its word. -/
structure Grows (k : Cluster) (base : Option Char) (based : Bool) : Prop where
  counts : ∀ rest, widthFrom none (k.chars ++ rest) = k.width + widthFrom base rest
  attached : ∀ rest, AttachedFrom based rest → Attached (k.chars ++ rest)
  begun : k.chars ≠ []
  blanks : ∀ c ∈ k.chars.tail, isBlank c = true → charWidth c = 0
  narrow : k.width + (if base.isSome then 1 else 0) ≤ 3

theorem grows_single (hj : c ≠ joiner) (hm : c ≠ presentationMark) :
    (single c).Grows (if charWidth c = 0 then none else some c)
      (!isBlank c && charWidth c != 0) where
  counts rest := widthFrom_other hj hm rest
  attached rest h := .other hj hm h
  begun := List.cons_ne_nil _ _
  blanks := by simp [single]
  narrow := by
    have := charWidth_le_two c
    by_cases hw : charWidth c = 0
    · simp [single, hw]
    · simp only [single, hw, if_false, Option.isSome_some, if_true]
      omega

theorem Grows.tail_append (h : k.Grows base based) (cs : List Char) :
    (k.chars ++ cs).tail = k.chars.tail ++ cs := List.tail_append_of_ne_nil h.begun

theorem Grows.joined (h : k.Grows base true) (hd : isBlank d = false) :
    (k.append [joiner, d] 0).Grows base true where
  counts rest := by simpa [append, widthFrom_joiner] using h.counts (joiner :: d :: rest)
  attached rest hr := by simpa [append] using h.attached _ (.joined hd hr)
  begun := by simp [append, h.begun]
  blanks c hc hb := by
    rw [append, h.tail_append, List.mem_append] at hc
    rcases hc with hc | hc
    · exact h.blanks c hc hb
    · rcases List.mem_pair.mp hc with rfl | rfl
      · exact absurd hb (by decide)
      · simp [hd] at hb
  narrow := h.narrow

theorem Grows.marked (h : k.Grows base true) :
    (k.append [presentationMark] (if base.any widening.contains then 1 else 0)).Grows none
      true where
  counts rest := by
    simpa [append, widthFrom_mark, Nat.add_assoc] using h.counts (presentationMark :: rest)
  attached rest hr := by simpa [append] using h.attached _ (.marked hr)
  begun := by simp [append, h.begun]
  blanks c hc hb := by
    rw [append, h.tail_append, List.mem_append, List.mem_singleton] at hc
    rcases hc with hc | rfl
    · exact h.blanks c hc hb
    · exact absurd hb (by decide)
  narrow := by
    have := h.narrow
    cases base with
    | none => simpa [append] using this
    | some b =>
      simp only [Option.isSome_some, if_true] at this
      simp only [append, Option.isSome_none, Bool.false_eq_true, if_false]
      split_ifs <;> omega

theorem Grows.widened (h : k.Grows base based) (hj : c ≠ joiner) (hm : c ≠ presentationMark)
    (hw : charWidth c = 0) :
    (k.append [c] 0).Grows base (!isBlank c && (based || charWidth c != 0)) where
  counts rest := by simpa [append, widthFrom_other hj hm, hw] using h.counts (c :: rest)
  attached rest hr := by simpa [append] using h.attached _ (.other hj hm hr)
  begun := by simp [append, h.begun]
  blanks d hd hb := by
    rw [append, h.tail_append, List.mem_append, List.mem_singleton] at hd
    rcases hd with hd | rfl
    · exact h.blanks d hd hb
    · exact hw
  narrow := h.narrow

/-- A cluster of a text whose joiners and marks stand inside words. -/
def Grown (k : Cluster) : Prop := ∃ base based, k.Grows base based

theorem Grown.attached (h : k.Grown) : Attached k.chars := by
  obtain ⟨base, based, h⟩ := h
  simpa using h.attached [] (.nil _)

theorem Grown.width_chars (h : k.Grown) : Console.width k.chars = k.width := by
  obtain ⟨base, based, h⟩ := h
  simpa [widthFrom, Console.width] using h.counts []

theorem Grown.narrow (h : k.Grown) : k.width ≤ 3 := by
  obtain ⟨base, based, h⟩ := h
  exact (Nat.le_add_right _ _).trans h.narrow

end Cluster

theorem clustersFrom_grown {s : Bool} {cs : List Char} (h : AttachedFrom s cs) {k : Cluster}
    {seen : List Cluster} {base : Option Char} (hk : k.Grows base s)
    (hseen : ∀ q ∈ seen, q.Grown) : ∀ q ∈ clustersFrom (k :: seen) base cs, q.Grown := by
  induction h generalizing k seen base with
  | nil s =>
    intro q hq
    rw [clustersFrom, List.mem_reverse, List.mem_cons] at hq
    rcases hq with rfl | hq
    · exact ⟨_, _, hk⟩
    · exact hseen q hq
  | joined hd _ ih =>
    rw [clustersFrom_joiner]
    exact ih (hk.joined hd) hseen
  | marked _ ih =>
    rw [clustersFrom_mark]
    exact ih hk.marked hseen
  | @other s c rest hj hm _ ih =>
    rw [clustersFrom_other hj hm]
    split_ifs with hw
    · exact ih (hk.widened hj hm hw) hseen
    · refine ih ?_ ?_
      · simpa [hw, bne_iff_ne.mpr hw] using Cluster.grows_single hj hm
      · intro q hq
        rcases List.mem_cons.mp hq with rfl | hq
        · exact ⟨_, _, hk⟩
        · exact hseen q hq

theorem Attached.clusters_grown {cs : List Char} (h : Attached cs) :
    ∀ k ∈ clusters cs, k.Grown := by
  cases h with
  | nil => simp [clusters, clustersFrom]
  | other hj hm h =>
    rw [clusters, clustersFrom]
    exact clustersFrom_grown (by simpa using h) (Cluster.grows_single hj hm) (by simp)

end Console

end EntityStore
