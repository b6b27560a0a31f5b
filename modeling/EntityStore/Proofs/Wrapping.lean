import EntityStore.Proofs.Widths
import Mathlib.Data.List.DropRight
import Mathlib.Data.List.SplitBy
import Mathlib.Data.List.TakeWhile

/-!
# Wrapping loses no ink

The ink of a text is what it has besides blanks. Breaking a text into lines moves no ink; only
cropping could take some away, and a line is cropped only where it is too wide even without the
blanks at its end. No line that was broken is.
-/

namespace EntityStore

/-! ## Separators -/

section Separators

variable {p : Char → Bool} {a b cs : List Char} {c : Char}

theorem splitAt_eq (p : Char → Bool) (cs : List Char) : splitAt p cs = cs.splitOnP p := by
  induction cs with
  | nil => simp [splitAt, List.splitOnP_nil]
  | cons c cs ih =>
    rw [splitAt, List.splitOnP_cons_eq_if_modifyHead, ih]
    obtain ⟨first, others, h⟩ := List.exists_cons_of_ne_nil (List.splitOnP_ne_nil p cs)
    simp [h]

theorem splitAt_free (h : ∀ c ∈ a, p c = false) : splitAt p a = [a] := by
  rw [splitAt_eq, List.splitOnP_eq_singleton h]

theorem splitAt_append (hc : p c = true) :
    splitAt p (a ++ c :: b) = splitAt p a ++ splitAt p b := by
  simp only [splitAt_eq, List.splitOnP_append_cons a b hc]

/-- Induction over the parts of a text. -/
theorem splitAt_induction (p : Char → Bool) {P : List Char → Prop}
    (free : ∀ a, (∀ c ∈ a, p c = false) → P a)
    (append : ∀ a c b, (∀ c ∈ a, p c = false) → p c = true → P b → P (a ++ c :: b))
    (cs : List Char) : P cs := by
  induction hn : cs.length using Nat.strong_induction_on generalizing cs with
  | _ n ih =>
    have hfree : ∀ c ∈ cs.takeWhile (! p ·), p c = false :=
      fun c hc => by simpa using List.mem_takeWhile_imp hc
    have hsplit := List.takeWhile_append_dropWhile (p := (! p ·)) (l := cs)
    cases hrest : cs.dropWhile (! p ·) with
    | nil =>
      rw [hrest, List.append_nil] at hsplit
      exact free cs (hsplit ▸ hfree)
    | cons c b =>
      have hc : p c = true := by simpa [hrest] using List.head?_dropWhile_not (! p ·) cs
      rw [hrest] at hsplit
      rw [← hsplit] at hn ⊢
      refine append _ c b hfree hc (ih b.length ?_ b rfl)
      simp only [List.length_append, List.length_cons] at hn
      omega

theorem splitAt_free_of_mem {part : List Char} (h : part ∈ splitAt p cs) :
    ∀ c ∈ part, p c = false := by
  induction cs using splitAt_induction p generalizing part with
  | free a ha =>
    rw [splitAt_free ha, List.mem_singleton] at h
    exact h ▸ ha
  | append a c b ha hc ih =>
    rw [splitAt_append hc, splitAt_free ha, List.mem_append,
      List.mem_singleton] at h
    rcases h with rfl | h
    · exact ha
    · exact ih h

end Separators

namespace Console

/-! ## Ink -/

/-- The characters of a text that are not blank. -/
def ink (cs : List Char) : List Char := cs.filter (! isBlank ·)

section Ink

variable {p : Char → Bool} {a b cs : List Char}

@[simp] theorem ink_nil : ink [] = [] := rfl

@[simp] theorem ink_append : ink (a ++ b) = ink a ++ ink b := List.filter_append ..

theorem ink_cons_blank {c : Char} (hc : isBlank c = true) : ink (c :: cs) = ink cs := by
  simp [ink, hc]

theorem ink_cons {c : Char} (hc : isBlank c = false) : ink (c :: cs) = c :: ink cs := by
  simp [ink, hc]

theorem ink_eq_nil_iff : ink cs = [] ↔ ∀ c ∈ cs, isBlank c = true := by
  simp [ink, List.filter_eq_nil_iff]

@[simp] theorem ink_spaces (n : Nat) : ink (spaces n) = [] := by
  rw [ink_eq_nil_iff]
  intro c hc
  rw [List.eq_of_mem_replicate hc]
  decide

@[simp] theorem ink_flatten (parts : List (List Char)) : ink parts.flatten = parts.flatMap ink := by
  rw [ink, List.filter_flatten]
  rfl

theorem ink_sublist (h : a.Sublist b) : (ink a).Sublist (ink b) := h.filter _

theorem flatMap_ink_splitAt (h : ∀ c, p c = true → isBlank c = true) (cs : List Char) :
    (splitAt p cs).flatMap ink = ink cs := by
  induction cs using splitAt_induction p with
  | free a ha => simp [splitAt_free ha]
  | append a c b ha hc ih =>
    rw [splitAt_append hc, splitAt_free ha, List.singleton_append, List.flatMap_cons, ih, ink_append,
      ink_cons_blank (h c hc)]

theorem Attached.splitAt (h : ∀ c, p c = true → isBlank c = true) (hcs : Attached cs) :
    ∀ part ∈ splitAt p cs, Attached part := by
  induction cs using splitAt_induction p with
  | free a ha =>
    intro part hpart
    rw [splitAt_free ha, List.mem_singleton] at hpart
    exact hpart ▸ hcs
  | append a c b ha hc ih =>
    obtain ⟨hattached, hrest⟩ := (attachedFrom_blank (h c hc)).mp hcs
    intro part hpart
    rw [splitAt_append hc, splitAt_free ha, List.singleton_append, List.mem_cons] at hpart
    rcases hpart with rfl | hpart
    · exact hattached
    · exact ih hrest part hpart

end Ink

/-! ## Ends -/

section Ends

variable {a b cs : List Char}

theorem exists_blank_end (cs : List Char) : ∃ b, cs = trimEnd cs ++ b ∧ ink b = [] := by
  refine ⟨(cs.reverse.takeWhile isBlank).reverse, ?_, ?_⟩
  · rw [trimEnd, ← List.reverse_append, List.takeWhile_append_dropWhile, List.reverse_reverse]
  · rw [ink_eq_nil_iff]
    intro c hc
    exact List.mem_takeWhile_imp (List.mem_reverse.mp hc)

theorem dropWhile_blank_iff : cs.reverse.dropWhile isBlank = [] ↔ ink cs = [] := by
  simp [List.dropWhile_eq_nil_iff, ink_eq_nil_iff]

theorem trimEnd_blanks (h : ink b = []) : trimEnd (a ++ b) = trimEnd a := by
  rw [trimEnd, List.reverse_append, List.dropWhile_append, dropWhile_blank_iff.mpr h]
  rfl

theorem trimEnd_ink (h : ink b ≠ []) : trimEnd (a ++ b) = a ++ trimEnd b := by
  rw [trimEnd, List.reverse_append, List.dropWhile_append, if_neg, List.reverse_append,
    List.reverse_reverse, trimEnd]
  rwa [List.isEmpty_iff, dropWhile_blank_iff]

theorem trimEnd_eq_nil_iff : trimEnd cs = [] ↔ ink cs = [] := by
  rw [trimEnd, List.reverse_eq_nil_iff, dropWhile_blank_iff]

theorem attached_of_ink (h : ink cs = []) : Attached cs :=
  attached_blanks (ink_eq_nil_iff.mp h)

theorem Attached.of_append_blanks (h : Attached (a ++ b)) (hb : ink b = []) : Attached a := by
  cases b with
  | nil => simpa using h
  | cons c b => exact ((attachedFrom_blank (ink_eq_nil_iff.mp hb c (by simp))).mp h).1

theorem Attached.trimEnd (h : Attached cs) : Attached (trimEnd cs) := by
  obtain ⟨b, hb, hblank⟩ := exists_blank_end cs
  rw [hb] at h
  exact h.of_append_blanks hblank

theorem Attached.width_trimEnd_le (h : Attached cs) :
    width (EntityStore.trimEnd cs) ≤ width cs := by
  obtain ⟨b, hb, hblank⟩ := exists_blank_end cs
  calc width (EntityStore.trimEnd cs)
    _ ≤ width (EntityStore.trimEnd cs) + width b := Nat.le_add_right _ _
    _ = width cs := by rw [← h.trimEnd.width_append (attached_of_ink hblank), ← hb]

end Ends

/-! ## Lines that fit -/

/-- A line that takes at most `size` cells, besides blanks at its end. -/
structure Fits (size : Nat) (line : List Char) : Prop where
  attached : Attached line
  narrow : width (trimEnd line) ≤ size

section Fitting

variable {size : Nat} {line a b : List Char}

theorem trimExcess_spec (size : Nat) (line : List Char) :
    ∃ b, line = trimExcess size line ++ b ∧ ink b = [] := by
  obtain ⟨blanks, hline, hblanks⟩ := exists_blank_end line
  set kept := trimEnd line with hkept
  have hlength : line.length = kept.length + blanks.length := by
    rw [hline, List.length_append]
  refine ⟨line.drop (line.length - min (line.length - kept.length) (line.length - size)),
    (List.take_append_drop _ _).symm, ?_⟩
  have hdrop : kept.length ≤
      line.length - min (line.length - kept.length) (line.length - size) := by omega
  rw [hline, List.drop_append, List.drop_eq_nil_of_le (by rwa [← hline]), List.nil_append]
  exact List.eq_nil_of_sublist_nil (hblanks ▸ ink_sublist (List.drop_sublist _ _))

theorem ink_trimExcess (size : Nat) (line : List Char) : ink (trimExcess size line) = ink line := by
  obtain ⟨b, hline, hb⟩ := trimExcess_spec size line
  conv_rhs => rw [hline, ink_append, hb, List.append_nil]

theorem Fits.trimExcess (h : Fits size line) : Fits size (trimExcess size line) := by
  obtain ⟨b, hline, hb⟩ := trimExcess_spec size line
  refine ⟨Attached.of_append_blanks (hline ▸ h.attached) hb, ?_⟩
  rw [← trimEnd_blanks hb, ← hline]
  exact h.narrow

theorem fitting_sublist (size : Nat) (ks : List Cluster) :
    (fitting size ks).Sublist (ks.flatMap Cluster.chars) := by
  fun_induction fitting size ks with
  | case1 => exact .slnil
  | case2 size k ks hk ih => exact List.Sublist.append_left ih _
  | case3 size k ks hk => exact List.nil_sublist _

theorem width_blanks (h : ∀ c ∈ b, isBlank c = true ∧ charWidth c = 0) : width b = 0 := by
  suffices ∀ last, widthFrom last b = 0 from this none
  intro last
  induction b generalizing last with
  | nil => rfl
  | cons c b ih =>
    obtain ⟨hc, hw⟩ := h c (by simp)
    rw [widthFrom_other (ne_joiner_of_isBlank hc) (ne_presentationMark_of_isBlank hc), hw,
      ih fun d hd => h d (by simp [hd])]

/-- The blanks at the end of a cluster take no cells. -/
theorem Cluster.Grown.width_trimEnd {k : Cluster} (h : k.Grown) (hink : ink k.chars ≠ []) :
    Console.width (trimEnd k.chars) = k.width := by
  obtain ⟨b, hb, hblank⟩ := exists_blank_end k.chars
  have hkept : trimEnd k.chars ≠ [] := by rwa [Ne, trimEnd_eq_nil_iff]
  have hzero : Console.width b = 0 := by
    refine width_blanks fun c hc => ?_
    have hcblank := ink_eq_nil_iff.mp hblank c hc
    obtain ⟨base, based, hgrows⟩ := h
    refine ⟨hcblank, hgrows.blanks c ?_ hcblank⟩
    rw [hb, List.tail_append_of_ne_nil hkept]
    exact List.mem_append_right _ hc
  calc Console.width (trimEnd k.chars)
    _ = Console.width (trimEnd k.chars) + Console.width b := by rw [hzero, Nat.add_zero]
    _ = Console.width k.chars := by
      rw [← h.attached.trimEnd.width_append (attached_of_ink hblank), ← hb]
    _ = k.width := h.width_chars

theorem attached_flatMap {ks : List Cluster} (hks : ∀ k ∈ ks, k.Grown) :
    Attached (ks.flatMap Cluster.chars) := by
  induction ks with
  | nil => exact .nil _
  | cons k ks ih =>
    exact (hks k (by simp)).attached.append (ih fun q hq => hks q (by simp [hq]))

/-- Nothing but blanks is left out of clusters that fit without the blanks at the end. -/
theorem ink_fitting {ks : List Cluster} (hks : ∀ k ∈ ks, k.Grown)
    (h : width (trimEnd (ks.flatMap Cluster.chars)) ≤ size) :
    ink (fitting size ks) = ink (ks.flatMap Cluster.chars) := by
  induction ks generalizing size with
  | nil => rfl
  | cons k ks ih =>
    have hk := hks k (by simp)
    have hrest : ∀ q ∈ ks, q.Grown := fun q hq => hks q (by simp [hq])
    rw [List.flatMap_cons] at h ⊢
    by_cases hink : ink (ks.flatMap Cluster.chars) = []
    · rw [fitting, ink_append, hink, List.append_nil]
      split_ifs with hfit
      · have hnone := ink_sublist (fitting_sublist (size - k.width) ks)
        rw [hink, List.sublist_nil] at hnone
        rw [ink_append, hnone, List.append_nil]
      · by_contra hchars
        rw [trimEnd_blanks hink, hk.width_trimEnd (Ne.symm hchars)] at h
        exact hfit h
    · rw [trimEnd_ink hink, hk.attached.width_append (attached_flatMap hrest).trimEnd,
        hk.width_chars] at h
      rw [fitting, if_pos (by omega), ink_append, ink_append, ih hrest (by omega)]

theorem ink_crop_sublist (size : Nat) (line : List Char) :
    (ink (crop size line)).Sublist (ink line) := by
  unfold crop
  split_ifs
  · exact List.Sublist.refl _
  · have := fitting_sublist size (clusters line)
    rw [flatMap_clusters] at this
    simpa [padTo] using ink_sublist this

theorem Fits.ink_crop (h : Fits size line) : ink (crop size line) = ink line := by
  unfold crop
  split_ifs
  · rfl
  · have hnarrow : width (trimEnd ((clusters line).flatMap Cluster.chars)) ≤ size := by
      rw [flatMap_clusters]
      exact h.narrow
    have hink := ink_fitting h.attached.clusters_grown hnarrow
    rw [flatMap_clusters] at hink
    simpa [padTo] using hink

end Fitting

/-! ## Words -/

theorem flatten_wordsOf (cs : List Char) : (wordsOf cs).flatten = cs := by
  have hsplit := List.flatten_splitBy (fun a b => !(isBlank a && !isBlank b)) cs
  unfold wordsOf
  split
  next first second rest hwords =>
    rw [hwords] at hsplit
    split_ifs <;> simpa using hsplit
  next few => exact hsplit

/-- A word is cut off behind a blank. -/
theorem attached_of_cut {words : List (List Char)}
    (hcut : words.IsChain fun a b =>
      ∃ (ha : a ≠ []) (hb : b ≠ []), (!(isBlank (a.getLast ha) && !isBlank (b.head hb))) = false)
    (h : Attached words.flatten) : ∀ w ∈ words, Attached w := by
  induction words with
  | nil => simp
  | cons w words ih =>
    cases words with
    | nil => simpa using h
    | cons v words =>
      rw [List.isChain_cons_cons] at hcut
      obtain ⟨⟨hw, hv, hblank⟩, hcut⟩ := hcut
      have hlast : isBlank (w.getLast hw) = true := by
        by_contra hne
        simp [Bool.not_eq_true _ ▸ hne] at hblank
      rw [List.flatten_cons] at h
      have hsplit : w.dropLast ++ w.getLast hw :: (v :: words).flatten =
          w ++ (v :: words).flatten := by
        rw [List.append_cons, List.dropLast_append_getLast]
      rw [← hsplit] at h
      obtain ⟨hfront, hrest⟩ := (attachedFrom_blank hlast).mp h
      have hw' : Attached w := by
        have := (attachedFrom_blank (b := []) hlast).mpr ⟨hfront, .nil _⟩
        rwa [List.dropLast_append_getLast] at this
      simp only [List.mem_cons, forall_eq_or_imp]
      exact ⟨hw', by simpa using ih hcut hrest⟩

theorem Attached.wordsOf {cs : List Char} (h : Attached cs) :
    ∀ w ∈ wordsOf cs, Attached w := by
  have hwords := attached_of_cut
    (List.isChain_getLast_head_splitBy (fun a b => !(isBlank a && !isBlank b)) cs)
    (by rwa [List.flatten_splitBy])
  unfold Console.wordsOf
  split
  next first second rest he =>
    rw [he] at hwords
    simp only [List.mem_cons, forall_eq_or_imp] at hwords
    obtain ⟨hfirst, hsecond, hrest⟩ := hwords
    split_ifs
    · simpa using ⟨hfirst.append hsecond, hrest⟩
    · simpa using ⟨hfirst, hsecond, hrest⟩
  next few => exact hwords

/-! ## Breaking -/

section Breaking

variable {size filled : Nat} {piece word line cs : List Char} {l : Layout}

theorem flatten_chopFrom (size filled : Nat) (piece : List Char) (ks : List Cluster) :
    (chopFrom size filled piece ks).flatten = piece ++ ks.flatMap Cluster.chars := by
  fun_induction chopFrom size filled piece ks <;> simp_all

theorem flatten_chop (size : Nat) (word : List Char) : (chop size word).flatten = word := by
  rw [chop, flatten_chopFrom, flatMap_clusters, List.nil_append]

theorem fits_of_width (h : Attached line) (hw : width line ≤ size) : Fits size line :=
  ⟨h, h.width_trimEnd_le.trans hw⟩

/-- A piece is cut off in front of the cluster that would be too much; no cluster is too much by
itself. -/
theorem chopFrom_fits (hsize : 3 ≤ size) {ks : List Cluster} (hks : ∀ k ∈ ks, k.Grown)
    (hpiece : Attached piece) (hfilled : width piece = filled) (hfit : filled ≤ size) :
    ∀ p ∈ chopFrom size filled piece ks, Fits size p := by
  fun_induction chopFrom size filled piece ks with
  | case1 filled piece =>
    intro p hp
    obtain rfl := List.mem_singleton.mp hp
    exact fits_of_width hpiece (hfilled ▸ hfit)
  | case2 filled piece k ks hover ih =>
    have hk := hks k (by simp)
    intro p hp
    rcases List.mem_cons.mp hp with rfl | hp
    · exact fits_of_width hpiece (hfilled ▸ hfit)
    · exact ih (fun q hq => hks q (by simp [hq])) hk.attached hk.width_chars
        (hk.narrow.trans hsize) p hp
  | case3 filled piece k ks hover ih =>
    have hk := hks k (by simp)
    refine ih (fun q hq => hks q (by simp [hq])) (hpiece.append hk.attached) ?_ (by omega)
    rw [hpiece.width_append hk.attached, hfilled, hk.width_chars]

theorem Attached.chop_fits (hsize : 3 ≤ size) (h : Attached word) :
    ∀ p ∈ chop size word, Fits size p :=
  chopFrom_fits hsize h.clusters_grown (.nil _) rfl (Nat.zero_le _)

namespace Layout

/-- All that was laid out. -/
def laid (l : Layout) : List Char := l.finished.reverse.flatten ++ l.line

theorem flatten_lines (l : Layout) : l.lines.flatten = l.laid := by
  simp [lines, laid]

theorem laid_breakBefore (l : Layout) (cs : List Char) :
    (l.breakBefore cs).laid = l.laid ++ cs := by
  unfold laid breakBefore
  cases hline : l.line <;> simp

theorem laid_breaks (pieces : List (List Char)) :
    (pieces.foldl breakBefore l).laid = l.laid ++ pieces.flatten := by
  induction pieces generalizing l with
  | nil => simp
  | cons p pieces ih => simp [ih, laid_breakBefore]

theorem laid_place (l : Layout) (word : List Char) :
    (l.place size .fold word).laid = l.laid ++ word := by
  unfold place
  dsimp only
  split_ifs
  · simp [laid]
  · rw [laid_breaks, flatten_chop]
  · exact laid_breakBefore l word

theorem laid_placed (words : List (List Char)) :
    (words.foldl (place size .fold) l).laid = l.laid ++ words.flatten := by
  induction words generalizing l with
  | nil => simp
  | cons w words ih => simp [ih, laid_place]

/-- Lines that fit, with the cells of the one at hand counted. -/
structure Sound (size : Nat) (l : Layout) : Prop where
  finished : ∀ p ∈ l.finished, Fits size p
  line : Fits size l.line
  filled : l.filled = width l.line

theorem Sound.breakBefore (h : l.Sound size) (hcs : Fits size cs) :
    (l.breakBefore cs).Sound size where
  finished p hp := by
    unfold Layout.breakBefore at hp
    dsimp only at hp
    split_ifs at hp
    · exact h.finished p hp
    · rcases List.mem_cons.mp hp with rfl | hp
      · exact h.line
      · exact h.finished p hp
  line := hcs
  filled := rfl

theorem Sound.breaks {pieces : List (List Char)} (h : l.Sound size)
    (hpieces : ∀ p ∈ pieces, Fits size p) :
    (pieces.foldl Layout.breakBefore l).Sound size := by
  induction pieces generalizing l with
  | nil => exact h
  | cons p pieces ih =>
    exact ih (h.breakBefore (hpieces p (by simp))) fun q hq => hpieces q (by simp [hq])

/-- A word goes on the line at hand if the line fits then. -/
theorem Sound.extend (h : l.Sound size) (hword : Attached word)
    (hroom : l.filled + width (trimEnd word) ≤ size) : Fits size (l.line ++ word) := by
  refine ⟨h.line.attached.append hword, ?_⟩
  by_cases hink : ink word = []
  · rw [trimEnd_blanks hink]
    exact h.line.narrow
  · rw [trimEnd_ink hink, h.line.attached.width_append hword.trimEnd, ← h.filled]
    exact hroom

theorem Sound.place (hsize : 3 ≤ size) (h : l.Sound size) (hword : Attached word) :
    (l.place size .fold word).Sound size := by
  unfold Layout.place
  dsimp only
  split_ifs with hroom hlong
  · refine ⟨h.finished, h.extend hword hroom, ?_⟩
    rw [h.line.attached.width_append hword, h.filled]
  · exact h.breaks (hword.chop_fits hsize)
  · exact h.breakBefore ⟨hword, Nat.le_of_not_lt hlong⟩

theorem Sound.placed (hsize : 3 ≤ size) {words : List (List Char)} (h : l.Sound size)
    (hwords : ∀ w ∈ words, Attached w) :
    (words.foldl (Layout.place size .fold) l).Sound size := by
  induction words generalizing l with
  | nil => exact h
  | cons w words ih =>
    exact ih (h.place hsize (hwords w (by simp))) fun v hv => hwords v (by simp [hv])

end Layout

theorem flatten_breakLine (size : Nat) (cs : List Char) :
    (breakLine size .fold cs).flatten = cs := by
  rw [breakLine, Layout.flatten_lines, Layout.laid_placed, flatten_wordsOf]
  rfl

theorem Attached.breakLine_fits (hsize : 3 ≤ size) (h : Attached cs) :
    ∀ part ∈ breakLine size .fold cs, Fits size part := by
  have hempty : Layout.Sound size {} := ⟨by simp, fits_of_width (.nil _) (Nat.zero_le _), rfl⟩
  have hsound := hempty.placed hsize h.wordsOf
  intro part hpart
  rw [breakLine, Layout.lines, List.mem_reverse] at hpart
  rcases List.mem_cons.mp hpart with rfl | hpart
  · exact hsound.line
  · exact hsound.finished part hpart

end Breaking

/-! ## Tabs -/

section Tabs

variable {size : Nat} {measure : List Char → Nat} {parts : List (List Char)} {cs : List Char}

theorem ink_fillTabs (position : Nat) :
    ink (fillTabs size measure position parts) = parts.flatMap ink := by
  fun_induction fillTabs size measure position parts with
  | case1 => rfl
  | case2 position last => simp
  | case3 position part rest hrest reached gap ih => simp [ih]

theorem attached_fillTabs (position : Nat) (h : ∀ part ∈ parts, Attached part) :
    Attached (fillTabs size measure position parts) := by
  fun_induction fillTabs size measure position parts with
  | case1 => exact .nil _
  | case2 position last => exact h last (by simp)
  | case3 position part rest hrest reached gap ih =>
    exact ((h part (by simp)).append (attached_of_ink (ink_spaces _))).append
      (ih fun q hq => h q (by simp [hq]))

theorem isBlank_tab : ∀ c, decide (c = '\t') = true → isBlank c = true := by
  simp only [decide_eq_true_eq, forall_eq]
  decide

theorem ink_expandTabs (cs : List Char) : ink (expandTabs size measure cs) = ink cs := by
  rw [expandTabs, ink_fillTabs, flatMap_ink_splitAt isBlank_tab]

theorem Attached.expandTabs (h : Attached cs) : Attached (expandTabs size measure cs) :=
  attached_fillTabs 0 (h.splitAt isBlank_tab)

end Tabs

/-! ## Wrapping -/

section Wrapping

variable {size : Nat} {cs : List Char}

theorem isBlank_lineFeed : ∀ c, decide (c = '\n') = true → isBlank c = true := by
  simp only [decide_eq_true_eq, forall_eq]
  decide

theorem ink_truncate_sublist (size : Nat) (line : List Char) :
    (ink (truncate size .fold (trimExcess size line))).Sublist (ink line) := by
  rw [← ink_trimExcess size line]
  unfold truncate
  split_ifs
  · exact List.Sublist.refl _
  · exact ink_crop_sublist size _

theorem Fits.ink_truncate {line : List Char} (h : Fits size line) :
    ink (truncate size .fold (Console.trimExcess size line)) = ink line := by
  rw [← ink_trimExcess size line]
  unfold truncate
  split_ifs
  · rfl
  · exact h.trimExcess.ink_crop

theorem flatMap_sublist {α β : Type} {f g : α → List β} {xs : List α}
    (h : ∀ x ∈ xs, (f x).Sublist (g x)) : (xs.flatMap f).Sublist (xs.flatMap g) := by
  induction xs with
  | nil => exact .slnil
  | cons x xs ih =>
    exact (h x (by simp)).append (ih fun y hy => h y (by simp [hy]))

theorem ink_parts (size : Nat) (line : List Char) :
    (breakLine size .fold (expandTabs 8 width line)).flatMap ink = ink line := by
  rw [← ink_flatten, flatten_breakLine, ink_expandTabs]

/-- Wrapping adds no ink to a text. -/
theorem ink_wrap_sublist (size : Nat) (cs : List Char) :
    ((wrap size .fold cs).flatMap ink).Sublist (ink cs) := by
  rw [← flatMap_ink_splitAt isBlank_lineFeed cs, wrap, List.flatMap_assoc]
  refine flatMap_sublist fun line _ => ?_
  rw [← ink_parts size line, List.flatMap_map]
  exact flatMap_sublist fun part _ => ink_truncate_sublist size part

/-- Wrapping loses no ink. -/
theorem Attached.ink_wrap (hsize : 3 ≤ size) (h : Attached cs) :
    (wrap size .fold cs).flatMap ink = ink cs := by
  rw [← flatMap_ink_splitAt isBlank_lineFeed cs, wrap, List.flatMap_assoc]
  refine List.flatMap_congr fun line hline => ?_
  have htabs : Attached (Console.expandTabs 8 width line) :=
    (h.splitAt isBlank_lineFeed line hline).expandTabs
  have hparts := htabs.breakLine_fits hsize
  rw [← ink_parts size line, List.flatMap_map]
  exact List.flatMap_congr fun part hpart => (hparts part hpart).ink_truncate

end Wrapping

end Console

end EntityStore
