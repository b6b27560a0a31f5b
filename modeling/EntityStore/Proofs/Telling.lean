import EntityStore.Command.Report
import EntityStore.Proofs.Markup

/-!
# What reports tell people

A failure is printed in a frame and a success line by line, both as marked-up text. All that is said
reaches the reader where the text has no markup in it, and only there: wherever it holds a tag, an
escaped bracket or the name of an emoji, some of it is missing from what is printed.
-/

namespace EntityStore

namespace Console

/-! ## Frames -/

/-- What a frame holds: all lines but the first and the last, each without its two ends. -/
def unframed (text : String) : List Char :=
  (((linesOf text.toList).drop 1).dropLast.dropLast).flatMap fun line => (line.drop 1).dropLast

section Frames

variable {P : Char → Prop} {size : Nat} {cs : List Char}

theorem linesOf_joined {lines : List (List Char)} (h : ∀ line ∈ lines, '\n' ∉ line) :
    linesOf (lines.flatMap fun line => line ++ ['\n']) = lines ++ [[]] := by
  induction lines with
  | nil => rfl
  | cons line lines ih =>
    have hline : ∀ c ∈ line, decide (c = '\n') = false := by
      intro c hc
      rw [decide_eq_false_iff_not]
      rintro rfl
      exact h line (by simp) hc
    rw [List.flatMap_cons, List.append_assoc, List.singleton_append, linesOf,
      splitAt_append (by decide), splitAt_free hline, ← linesOf, ih fun l hl => h l (by simp [hl])]
    rfl

theorem forall_fillTabs {measure : List Char → Nat} {parts : List (List Char)} (position : Nat)
    (hspace : P ' ') (h : ∀ part ∈ parts, ∀ c ∈ part, P c) :
    ∀ c ∈ fillTabs size measure position parts, P c := by
  fun_induction fillTabs size measure position parts with
  | case1 => simp
  | case2 position last => exact h last (by simp)
  | case3 position part rest hrest reached gap ih =>
    intro c hc
    rcases List.mem_append.mp hc with hc | hc
    · rcases List.mem_append.mp hc with hc | hc
      · exact h part (by simp) c hc
      · exact List.eq_of_mem_replicate hc ▸ hspace
    · exact ih (fun q hq => h q (by simp [hq])) c hc

theorem forall_padTo (hspace : P ' ') (h : ∀ c ∈ cs, P c) : ∀ c ∈ padTo size cs, P c := by
  intro c hc
  rcases List.mem_append.mp hc with hc | hc
  · exact h c hc
  · exact List.eq_of_mem_replicate hc ▸ hspace

theorem forall_truncate (hspace : P ' ') (h : ∀ c ∈ cs, P c) :
    ∀ c ∈ truncate size .fold (trimExcess size cs), P c := by
  obtain ⟨b, hcs, -⟩ := trimExcess_spec size cs
  have hkept : ∀ c ∈ trimExcess size cs, P c := fun c hc =>
    h c (hcs ▸ List.mem_append_left b hc)
  unfold truncate
  split_ifs
  · exact hkept
  · dsimp only [crop]
    split_ifs
    refine forall_padTo hspace fun c hc => hkept c ?_
    have := (fitting_sublist size (clusters (trimExcess size cs))).subset hc
    rwa [flatMap_clusters] at this

/-- Wrapped lines are made of the characters of the lines of a text, and of blanks. -/
theorem forall_wrap (hspace : P ' ') (h : ∀ line ∈ linesOf cs, ∀ c ∈ line, P c) :
    ∀ line ∈ wrap size .fold cs, ∀ c ∈ line, P c := by
  simp only [wrap, List.mem_flatMap, List.mem_map]
  rintro _ ⟨line, hline, part, hpart, rfl⟩
  refine forall_truncate hspace fun c hc => ?_
  have hmem : c ∈ expandTabs 8 width line := by
    rw [← flatten_breakLine size (expandTabs 8 width line)]
    exact List.mem_flatten.mpr ⟨part, hpart, hc⟩
  refine forall_fillTabs 0 hspace (fun q hq d hd => ?_) c hmem
  exact h line hline d (mem_of_mem_splitAt hq hd)

theorem lineFeed_not_mem_wrap : ∀ line ∈ wrap size .fold cs, '\n' ∉ line := by
  have hlines : ∀ line ∈ linesOf cs, ∀ c ∈ line, c ≠ '\n' := fun line hline c hc => by
    simpa using splitAt_free_of_mem hline c hc
  exact fun line hline hmem => forall_wrap (by decide) hlines line hline _ hmem rfl

theorem unframed_panel {title : String} (htitle : '\n' ∉ panelTop title) (cs : List Char) :
    unframed (joinLines (drawPanel title cs)) =
      (wrap panelRoom .fold cs).flatMap fun line => ' ' :: padTo panelRoom line ++ [' '] := by
  have hbottom : '\n' ∉ panelBottom := by decide
  have hinner : ∀ line ∈ wrap panelRoom .fold cs, '\n' ∉ panelLine line := by
    intro line hline hmem
    simp only [panelLine, List.mem_append] at hmem
    rcases hmem with (hmem | hmem) | hmem
    · exact absurd hmem (by decide)
    · refine forall_padTo (P := (· ≠ '\n')) (by decide) (fun c hc hne => ?_) _ hmem rfl
      exact lineFeed_not_mem_wrap line hline (hne ▸ hc)
    · exact absurd hmem (by decide)
  have hlines : ∀ line ∈ drawPanel title cs, '\n' ∉ line := by
    simp only [drawPanel, List.mem_append, List.mem_singleton, List.mem_map]
    rintro line ((rfl | ⟨inner, hinner', rfl⟩) | rfl)
    · exact htitle
    · exact hinner inner hinner'
    · exact hbottom
  rw [unframed, joinLines, String.toList_ofList, linesOf_joined hlines, drawPanel]
  simp only [List.cons_append, List.nil_append, List.drop_succ_cons, List.drop_zero]
  rw [List.dropLast_concat, List.dropLast_concat, List.flatMap_map]
  refine List.flatMap_congr fun line _ => ?_
  have hleft : "│ ".toList = ['│', ' '] := by decide
  have hright : " │".toList = [' ', '│'] := by decide
  rw [panelLine, hleft, hright, List.cons_append, List.cons_append, List.drop_succ_cons,
    List.drop_zero, List.append_cons, List.dropLast_concat]
  rfl

theorem ink_unframed_panel {title : String} (htitle : '\n' ∉ panelTop title) (cs : List Char) :
    ink (unframed (joinLines (drawPanel title cs))) = (wrap panelRoom .fold cs).flatMap ink := by
  rw [unframed_panel htitle, ink, List.filter_flatMap]
  refine List.flatMap_congr fun line _ => ?_
  change ink (' ' :: padTo panelRoom line ++ [' ']) = ink line
  rw [ink_append, ink_cons_blank (by decide), padTo, ink_append, ink_spaces,
    ink_cons_blank (by decide)]
  simp

theorem ink_joinLines (lines : List (List Char)) :
    ink (joinLines lines).toList = lines.flatMap ink := by
  rw [joinLines, String.toList_ofList, ink, List.filter_flatMap]
  refine List.flatMap_congr fun line _ => ?_
  change ink (line ++ ['\n']) = ink line
  rw [ink_append, ink_cons_blank (by decide)]
  simp

end Frames

/-! ## Printed texts -/

section Printed

variable {text : String} {texts : List String} {out : List Char} {outs : List (List Char)}

theorem print_drawn {b : Block} {drawn : String} (h : b.draw = .ok drawn) (rest : List Block) :
    print (b :: rest) = ⟨drawn ++ (print rest).text, (print rest).flaw⟩ := by
  simp [print, h]

theorem print_ok {b : Block} {rest : List Block} (h : (print (b :: rest)).flaw = none) :
    ∃ drawn, b.draw = .ok drawn ∧ (print rest).flaw = none ∧
      (print (b :: rest)).text = drawn ++ (print rest).text := by
  cases hdraw : b.draw with
  | error flaw => simp [print, hdraw] at h
  | ok drawn =>
    rw [print_drawn hdraw] at h ⊢
    exact ⟨drawn, rfl, h, rfl⟩

/-- The ink of the lines that are printed of a rendered text. -/
def printedInk (size : Nat) (out : List Char) : List Char := (wrap size .fold out).flatMap ink

theorem marks_printedInk_le (size : Nat) (h : render text = .ok out) :
    marks (printedInk size out) ≤ marks text.toList :=
  calc marks (printedInk size out)
    _ ≤ marks (ink out) := marks_le (ink_wrap_sublist size out)
    _ = marks out := marks_ink out
    _ ≤ marks text.toList := (marks_render h).1

/-- A text of which all marks are printed has no markup. -/
theorem unmarked_of_printed {size : Nat} (h : render text = .ok out)
    (hle : marks text.toList ≤ marks (printedInk size out))
    (hcontrols : ∀ c ∈ text.toList, isStripped c = true → isBlank c = true) :
    Unmarked text.toList := by
  refine (marks_render h).2 ?_ hcontrols
  rw [← marks_ink out]
  exact hle.trans (marks_le (ink_wrap_sublist size out))

/-- What is printed has no controls in it. -/
theorem controls_of_printed {size : Nat} {cs : List Char}
    (h : ∀ out ∈ outs, ∃ text, render text = .ok out)
    (heq : outs.flatMap (printedInk size) = ink cs) :
    ∀ c ∈ cs, isStripped c = true → isBlank c = true := by
  intro c hc hstripped
  by_contra hblank
  have hmem : c ∈ ink cs := List.mem_filter.mpr ⟨hc, by simpa using hblank⟩
  rw [← heq, List.mem_flatMap] at hmem
  obtain ⟨out, hout, hmem⟩ := hmem
  obtain ⟨text, htext⟩ := h out hout
  have hshown := (List.mem_filter.mp ((ink_wrap_sublist size out).subset hmem)).1
  rw [not_stripped_render htext c hshown] at hstripped
  exact Bool.noConfusion hstripped

/-- A text without markup is printed whole. -/
theorem Unmarked.printedInk_eq (size : Nat) (hsize : 3 ≤ size) (h : Unmarked text.toList)
    (htext : Attached text.toList) :
    ∃ out, Console.render text = .ok out ∧ printedInk size out = ink text.toList :=
  ⟨_, h.render, by rw [printedInk, (h.attached_strip htext).ink_wrap hsize, h.ink_strip]⟩

/-- All that was to be said is printed, and nothing else besides what frames it. -/
structure Reaches (out : Printed) (shown : String → List Char) (said : List Char) : Prop where
  flaw : out.flaw = none
  ink : ink (shown out.text) = said

/-! ## Panels -/

section Panels

variable {title drawn : String}

theorem draw_panel_ok : (Block.panel title text).draw = .ok drawn ↔
    ∃ out, render text = .ok out ∧ joinLines (drawPanel title out) = drawn :=
  map_ok

theorem ink_unframed_drawn (htitle : '\n' ∉ panelTop title) (out : List Char) :
    ink (unframed (joinLines (drawPanel title out) ++ "")) = printedInk panelRoom out := by
  rw [String.append_empty]
  exact ink_unframed_panel htitle out

theorem unmarked_of_panel (htitle : '\n' ∉ panelTop title)
    (h : Reaches (print [.panel title text]) unframed (ink text.toList)) :
    Unmarked text.toList := by
  obtain ⟨hflaw, hsaid⟩ := h
  obtain ⟨drawn, hdraw, -, htext⟩ := print_ok hflaw
  obtain ⟨out, hout, rfl⟩ := draw_panel_ok.mp hdraw
  have hprinted : printedInk panelRoom out = ink text.toList := by
    rw [← ink_unframed_drawn htitle, ← hsaid, htext]
    rfl
  have hrendered : ∀ out' ∈ [out], ∃ text, render text = .ok out' := by
    simpa using ⟨text, hout⟩
  have hsaid' : [out].flatMap (printedInk panelRoom) = ink text.toList := by simpa using hprinted
  have hcontrols := controls_of_printed hrendered hsaid'
  exact unmarked_of_printed hout (by rw [hprinted, marks_ink]) hcontrols

theorem Unmarked.panel (htitle : '\n' ∉ panelTop title) (h : Unmarked text.toList)
    (htext : Attached text.toList) :
    Reaches (print [.panel title text]) unframed (Console.ink text.toList) := by
  obtain ⟨out, hout, hprinted⟩ := h.printedInk_eq panelRoom (by decide) htext
  have hdraw : (Block.panel title text).draw = .ok (joinLines (drawPanel title out)) :=
    draw_panel_ok.mpr ⟨out, hout, rfl⟩
  rw [print_drawn hdraw]
  refine ⟨rfl, ?_⟩
  rw [← hprinted, ← ink_unframed_drawn htitle]
  rfl

end Panels

/-! ## Paragraphs -/

theorem print_paragraphs (h : (print (texts.map .paragraph)).flaw = none) :
    ∃ outs, List.Forall₂ (fun text out => render text = .ok out) texts outs ∧
      ink (print (texts.map .paragraph)).text.toList =
        outs.flatMap (printedInk terminalWidth) := by
  induction texts with
  | nil => exact ⟨[], .nil, rfl⟩
  | cons text texts ih =>
    obtain ⟨drawn, hdraw, hrest, htext⟩ := print_ok h
    obtain ⟨outs, houts, hink⟩ := ih hrest
    obtain ⟨out, hout, rfl⟩ := map_ok.mp hdraw
    refine ⟨out :: outs, .cons hout houts, ?_⟩
    rw [List.map_cons, htext, String.toList_append, ink_append, ink_joinLines, hink]
    rfl

theorem paragraphs_reach (h : ∀ text ∈ texts, Unmarked text.toList ∧ Attached text.toList) :
    Reaches (print (texts.map .paragraph)) String.toList (texts.flatMap (ink ·.toList)) := by
  induction texts with
  | nil => exact ⟨rfl, rfl⟩
  | cons text texts ih =>
    obtain ⟨htext, hattached⟩ := h text (by simp)
    obtain ⟨hflaw, hink⟩ := ih fun t ht => h t (by simp [ht])
    obtain ⟨out, hout, hprinted⟩ :=
      htext.printedInk_eq terminalWidth (by decide) hattached
    have hdraw : (Block.paragraph text).draw =
        .ok (joinLines (wrap terminalWidth .fold out)) := by
      rw [Block.draw, hout]
      rfl
    rw [List.map_cons, print_drawn hdraw]
    refine ⟨hflaw, ?_⟩
    rw [String.toList_append, ink_append, ink_joinLines, hink, List.flatMap_cons, ← hprinted]
    rfl

theorem marks_printed_le (size : Nat)
    (h : List.Forall₂ (fun text out => render text = .ok out) texts outs) :
    marks (outs.flatMap (printedInk size)) ≤ (texts.map (marks ·.toList)).sum := by
  induction h with
  | nil => exact Nat.zero_le _
  | cons hout _ ih =>
    rw [List.flatMap_cons, marks_append, List.map_cons, List.sum_cons]
    exact Nat.add_le_add (marks_printedInk_le size hout) ih

/-- The marks of some texts are those of their ink. -/
theorem sum_marks (texts : List String) :
    (texts.map (marks ·.toList)).sum = marks (texts.flatMap (ink ·.toList)) := by
  induction texts with
  | nil => rfl
  | cons text texts ih => simp [ih, marks_ink]

theorem unmarked_of_all_printed {size : Nat}
    (h : List.Forall₂ (fun text out => render text = .ok out) texts outs)
    (hle : (texts.map (marks ·.toList)).sum ≤ marks (outs.flatMap (printedInk size)))
    (hcontrols : ∀ text ∈ texts, ∀ c ∈ text.toList, isStripped c = true → isBlank c = true) :
    ∀ text ∈ texts, Unmarked text.toList := by
  induction h with
  | nil => simp
  | @cons text out texts outs hout hrest ih =>
    rw [List.flatMap_cons, marks_append, List.map_cons, List.sum_cons] at hle
    have hhead := marks_printedInk_le size hout
    have htail := marks_printed_le size hrest
    simp only [List.mem_cons, forall_eq_or_imp] at hcontrols ⊢
    exact ⟨unmarked_of_printed hout (by omega : _ ≤ marks (printedInk size out)) hcontrols.1,
      ih (by omega) hcontrols.2⟩

theorem unmarked_of_paragraphs
    (h : Reaches (print (texts.map .paragraph)) String.toList (texts.flatMap (ink ·.toList))) :
    ∀ text ∈ texts, Unmarked text.toList := by
  obtain ⟨hflaw, hsaid⟩ := h
  obtain ⟨outs, houts, hprinted⟩ := print_paragraphs hflaw
  rw [hsaid] at hprinted
  have hrendered : ∀ out ∈ outs, ∃ text, render text = .ok out := by
    intro out hout
    obtain ⟨i, hi, rfl⟩ := List.getElem_of_mem hout
    exact ⟨_, houts.get (houts.length_eq ▸ hi) hi⟩
  have hink : outs.flatMap (printedInk terminalWidth) = ink (texts.flatMap String.toList) := by
    rw [← hprinted, ink, List.filter_flatMap]
    rfl
  have hcontrols := controls_of_printed hrendered hink
  refine unmarked_of_all_printed houts (by rw [sum_marks, hprinted]) fun text htext c hc => ?_
  exact hcontrols c (List.mem_flatMap.mpr ⟨text, htext, hc⟩)

end Printed

/-! ## In front of a text -/

section Fronts

variable {c : Char} {cs : List Char}

theorem infix_cons_iff_of_head {d : Char} {pattern : List Char} (hd : d ≠ c) :
    d :: pattern <:+: c :: cs ↔ d :: pattern <:+: cs := by
  rw [List.infix_cons_iff, or_iff_right]
  rintro ⟨rest, h⟩
  exact hd (List.cons.inj h).1

theorem unmarked_cons_iff (hmark : isMark c = false) (hshown : isStripped c = false) :
    Unmarked (c :: cs) ↔ Unmarked cs := by
  simp only [isMark, Bool.or_eq_false_iff, decide_eq_false_iff_not] at hmark
  obtain ⟨⟨hbracket, hslash⟩, hcolon⟩ := hmark
  have htag : ∀ tag, IsTag tag → (tag <:+: c :: cs ↔ tag <:+: cs) := by
    rintro _ ⟨first, body, -, -, rfl⟩
    exact infix_cons_iff_of_head (Ne.symm hbracket)
  have hescaped : ['\\', '['] <:+: c :: cs ↔ ['\\', '['] <:+: cs :=
    infix_cons_iff_of_head (Ne.symm hslash)
  have hcontrols : (∀ d ∈ c :: cs, isStripped d = true → isBlank d = true) ↔
      ∀ d ∈ cs, isStripped d = true → isBlank d = true := by
    simp [hshown]
  constructor
  · rintro ⟨htagless, hunescaped, hnameless, hcs⟩
    exact ⟨fun tag h => (htag tag h).not.mp (htagless tag h), hescaped.not.mp hunescaped,
      colonNames_cons hcolon ▸ hnameless, hcontrols.mp hcs⟩
  · rintro ⟨htagless, hunescaped, hnameless, hcs⟩
    exact ⟨fun tag h => (htag tag h).not.mpr (htagless tag h), hescaped.not.mpr hunescaped,
      (colonNames_cons hcolon).symm ▸ hnameless, hcontrols.mpr hcs⟩

theorem attached_space_iff : Attached (' ' :: cs) ↔ Attached cs :=
  (attachedFrom_blank (a := []) (by decide)).trans (and_iff_right (.nil _))

end Fronts

end Console

namespace Report

open Console

/-- What a failure of validation says: its message, and a line for each field. -/
def failureLines (entity : String) (violations : List Violation) : List String :=
  (Failure.validation entity violations).message :: (Violation.byField violations).map
    fun (field, reasons) => field ++ ": " ++ String.intercalate "; " reasons

/-- What a success says: its message, and a line for each detail. -/
def successLines (message : String) (details : List (String × Value)) : List String :=
  message :: details.map detailLine

theorem ink_joined (lines : List String) :
    ink (String.intercalate "\n" lines).toList = lines.flatMap (ink ·.toList) := by
  have hbreak : ink "\n".toList = [] := by decide
  induction lines with
  | nil => rfl
  | cons line lines ih =>
    cases lines with
    | nil => simp
    | cons next lines =>
      rw [String.intercalate_cons_cons, String.toList_append, String.toList_append, ink_append,
        ink_append, ih, hbreak]
      simp

theorem ink_failureText (entity : String) (violations : List Violation) :
    ink (failureText (.validation entity violations)).toList =
      (failureLines entity violations).flatMap (ink ·.toList) := by
  have hbreak : ink "\n\n".toList = [] := by decide
  rw [failureText, failureDetails?]
  simp only [String.toList_append, ink_append, ink_joined, hbreak, List.append_nil]
  rfl

/-- The lines of a success as they are printed: a check mark in front of the message, and two blanks
in front of each detail. -/
def printedLines : List String → List String
  | [] => []
  | message :: details => ("✓ " ++ message) :: details.map ("  " ++ ·)

theorem success_paragraphs (message : String) (details : List (String × Value)) :
    success .text message details =
      (printedLines (successLines message details)).map .paragraph := by
  simp [success, printedLines, successLines, Function.comp_def]

theorem toList_check (message : String) :
    ("✓ " ++ message).toList = '✓' :: ' ' :: message.toList := by
  rw [String.toList_append]
  rfl

theorem toList_indent (line : String) : ("  " ++ line).toList = ' ' :: ' ' :: line.toList := by
  rw [String.toList_append]
  rfl

theorem unmarked_printedLines {lines : List String} :
    (∀ text ∈ printedLines lines, Unmarked text.toList) ↔ ∀ line ∈ lines, Unmarked line.toList := by
  have hspace : ∀ cs, Unmarked (' ' :: cs) ↔ Unmarked cs :=
    fun cs => unmarked_cons_iff (by decide) (by decide)
  have hcheck : ∀ cs, Unmarked ('✓' :: cs) ↔ Unmarked cs :=
    fun cs => unmarked_cons_iff (by decide) (by decide)
  cases lines with
  | nil => rfl
  | cons message details => simp [printedLines, hspace, hcheck]

theorem attached_printedLines {lines : List String} (h : ∀ line ∈ lines, Attached line.toList) :
    ∀ text ∈ printedLines lines, Attached text.toList := by
  cases lines with
  | nil => exact h
  | cons message details =>
    simp only [printedLines, List.mem_cons, List.mem_map, forall_eq_or_imp, toList_check] at h ⊢
    refine ⟨(attachedFrom_blank (a := ['✓']) (by decide)).mpr ⟨?_, h.1⟩, ?_⟩
    · exact attached_of_all (by decide)
    · rintro _ ⟨line, hline, rfl⟩
      rw [toList_indent, attached_space_iff, attached_space_iff]
      exact h.2 line hline

theorem ink_printedLines {lines : List String} (hne : lines ≠ []) :
    (printedLines lines).flatMap (ink ·.toList) = '✓' :: lines.flatMap (ink ·.toList) := by
  have hspace : ∀ cs, ink (' ' :: cs) = ink cs := fun cs => ink_cons_blank (by decide)
  have hcheck : ∀ cs, ink ('✓' :: cs) = '✓' :: ink cs := fun cs => ink_cons (by decide)
  cases lines with
  | nil => exact absurd rfl hne
  | cons message details =>
    simp [printedLines, List.flatMap_map, hspace, hcheck]

/-- Text for people loses nothing only if it holds no markup: a failure of validation says all of
its message and its lines, and a success all of its message and its details, only if there is no
tag, no escaped bracket and no name of an emoji in them. Then nothing is lost wherever joiners and
presentation marks stand inside words. -/
theorem reports_reach (entity : String) (violations : List Violation) (message : String)
    (details : List (String × Value)) :
    (let text := (failureText (.validation entity violations)).toList
      let reached := Reaches (print (failure .text (.validation entity violations))) unframed
        ((failureLines entity violations).flatMap (ink ·.toList))
      (reached → Unmarked text) ∧ (Unmarked text → Attached text → reached)) ∧
    (let said := successLines message details
      let reached := Reaches (print (success .text message details)) String.toList
        ('✓' :: said.flatMap (ink ·.toList))
      (reached → ∀ line ∈ said, Unmarked line.toList) ∧
        ((∀ line ∈ said, Unmarked line.toList ∧ Attached line.toList) → reached)) := by
  have htitle : '\n' ∉ panelTop "Error" := by decide +kernel
  refine ⟨?_, ?_⟩
  · simp only [← ink_failureText]
    exact ⟨unmarked_of_panel htitle, Unmarked.panel htitle⟩
  · have hsaid := ink_printedLines (List.cons_ne_nil message (details.map detailLine))
    simp only [success_paragraphs, successLines, ← hsaid]
    refine ⟨fun h => unmarked_printedLines.mp (unmarked_of_paragraphs h), fun h => ?_⟩
    have hunmarked := unmarked_printedLines.mpr fun line hline => (h line hline).1
    have hattached := attached_printedLines fun line hline => (h line hline).2
    exact paragraphs_reach fun text htext => ⟨hunmarked text htext, hattached text htext⟩

/-- A failure over a pattern of digits only, whose brackets begin no tag. -/
def digitsWanted : List Violation :=
  [⟨"code", .stated "string_pattern_mismatch" "String should match pattern '^[0-9]+$'"⟩]

theorem digits_reach :
    Unmarked (failureText (.validation "t" digitsWanted)).toList ∧
    Attached (failureText (.validation "t" digitsWanted)).toList ∧
    Reaches (print (failure .text (.validation "t" digitsWanted))) unframed
      ((failureLines "t" digitsWanted).flatMap (ink ·.toList)) ∧
    Reaches (print (success .text "saved" [("id", .text "7")])) String.toList
      ('✓' :: (successLines "saved" [("id", .text "7")]).flatMap (ink ·.toList)) := by
  have hfailure : Unmarked (failureText (.validation "t" digitsWanted)).toList := by
    decide +kernel
  have hplain : Attached (failureText (.validation "t" digitsWanted)).toList :=
    attached_of_all (by decide +kernel)
  have hreports := reports_reach "t" digitsWanted "saved" [("id", .text "7")]
  refine ⟨hfailure, hplain, hreports.1.2 hfailure hplain, hreports.2.2 ?_⟩
  simp only [successLines, List.map_cons, List.map_nil, List.mem_cons, List.not_mem_nil, or_false,
    forall_eq_or_imp, forall_eq]
  exact ⟨⟨by decide +kernel, attached_of_all (by decide +kernel)⟩,
    ⟨by decide +kernel, attached_of_all (by decide +kernel)⟩⟩

/-- The same over a pattern of letters, whose brackets are taken for a tag. -/
def lettersWanted : List Violation :=
  [⟨"code", .stated "string_pattern_mismatch" "String should match pattern '^[a-z]+$'"⟩]

/-- What the failure says of the pattern does not reach the reader. -/
theorem letters_lost :
    ¬ Reaches (print (failure .text (.validation "t" lettersWanted))) unframed
      ((failureLines "t" lettersWanted).flatMap (ink ·.toList)) := by
  have htitle : '\n' ∉ panelTop "Error" := by decide +kernel
  rw [← ink_failureText]
  intro h
  exact absurd (unmarked_of_panel htitle h) (by decide +kernel)

end Report

end EntityStore
