import EntityStore.Console.Markup
import EntityStore.Proofs.Traversal
import EntityStore.Proofs.Wrapping

/-!
# Text without markup

Rendering takes tags, backslashes in front of brackets and names of emoji out of a text. Each of
these takes brackets, backslashes or colons away and none is ever put in, so a text that keeps as
many of them as it had was left as it is, and had nothing of the kind in it.
-/

namespace EntityStore

namespace Console

/-! ## What is taken out -/

/-- A tag as it is written. -/
def IsTag (cs : List Char) : Prop :=
  ∃ c body, startsTag c = true ∧ (∀ d ∈ body, d ≠ '[' ∧ d ≠ ']') ∧
    cs = '[' :: c :: (body ++ [']'])

/-- The names among the parts between colons. A part with a blank is no name, and a colon that ends
a name begins no other. -/
def namesBetween : List (List Char) → List (List Char)
  | _ :: name :: after :: rest =>
    if name.any isBlank then namesBetween (name :: after :: rest)
    else name :: namesBetween (after :: rest)
  | _ => []

def colonNames (cs : List Char) : List (List Char) := namesBetween (splitAt (· = ':') cs)

/-- A text without tags, without escaped brackets, without names of emoji and without the controls
that are never shown. -/
structure Unmarked (cs : List Char) : Prop where
  tagless : ∀ tag, IsTag tag → ¬ tag <:+: cs
  unescaped : ¬ ['\\', '['] <:+: cs
  nameless : ∀ name ∈ colonNames cs, emojiText? name = none
  shown : ∀ c ∈ cs, isStripped c = true → isBlank c = true

/-- The characters that stand in everything that is taken out. -/
def isMark (c : Char) : Bool := c = '[' || c = '\\' || c = ':'

def marks (cs : List Char) : Nat := cs.countP isMark

section Marks

variable {a b cs : List Char} {c : Char}

@[simp] theorem marks_nil : marks [] = 0 := rfl

@[simp] theorem marks_append : marks (a ++ b) = marks a + marks b := List.countP_append ..

theorem marks_cons : marks (c :: cs) = marks cs + if isMark c then 1 else 0 := List.countP_cons ..

@[simp] theorem marks_reverse : marks cs.reverse = marks cs := List.countP_reverse ..

theorem marks_le (h : a.Sublist b) : marks a ≤ marks b := h.countP_le

theorem marks_ink (cs : List Char) : marks (ink cs) = marks cs := by
  rw [marks, ink, List.countP_filter]
  refine List.countP_congr fun c _ => ?_
  simp only [isMark, Bool.and_eq_true, Bool.or_eq_true, decide_eq_true_eq, Bool.not_eq_true',
    and_iff_left_iff_imp]
  rintro ((rfl | rfl) | rfl) <;> decide

theorem marks_replicate_slash (n : Nat) : marks (List.replicate n '\\') = n := by
  rw [marks, List.countP_replicate, if_pos (by decide)]

end Marks

/-! ## Emoji -/

section Emoji

variable {cs name after : List Char} {c : Char}

theorem mem_of_mem_splitAt {p : Char → Bool} {part : List Char} (h : part ∈ splitAt p cs)
    (hc : c ∈ part) : c ∈ cs := by
  induction cs using splitAt_induction p with
  | free a ha =>
    rw [splitAt_free ha, List.mem_singleton] at h
    exact h ▸ hc
  | append a d b ha hd ih =>
    rw [splitAt_append hd, splitAt_free ha, List.singleton_append, List.mem_cons] at h
    rcases h with rfl | h
    · exact List.mem_append_left _ hc
    · exact List.mem_append_right _ (List.mem_cons_of_mem _ (ih h))

/-- The emoji of a table, character by character. -/
inductive Spelt : List (String × String) → List (List Char) → Prop where
  | nil : Spelt [] []
  | cons {names : String} {emoji : List Char} {lines : List (String × String)}
    {others : List (List Char)} (h : Spelt lines others) :
    Spelt ((names, String.ofList emoji) :: lines) (emoji :: others)

theorem Spelt.all {p : Char → Bool} {lines : List (String × String)} {spelt : List (List Char)}
    (h : Spelt lines spelt) (hall : spelt.all (·.all p) = true) :
    ∀ line ∈ lines, ∀ c ∈ line.2.toList, p c = true := by
  induction h with
  | nil => simp
  | cons _ ih =>
    simp only [List.all_cons, Bool.and_eq_true] at hall
    simp only [List.mem_cons, forall_eq_or_imp, String.toList_ofList]
    exact ⟨List.all_eq_true.mp hall.1, ih hall.2⟩

set_option maxRecDepth 100000 in
theorem emojiLines_unmarked : ∀ line ∈ emojiLines, ∀ c ∈ line.2.toList, (! isMark c) = true := by
  unfold emojiLines
  -- the table has to be taken apart before it is decided: reading a literal is slow
  refine Spelt.all (by repeat constructor) ?_
  decide +kernel

theorem marks_eq_zero_iff : marks cs = 0 ↔ ∀ c ∈ cs, isMark c = false := by
  simp [marks, List.countP_eq_zero]

theorem marks_emoji {key emoji : String} (h : emoji? key = some emoji) :
    marks emoji.toList = 0 := by
  obtain ⟨line, hline, hlookup⟩ := List.exists_of_findSome?_eq_some h
  have hmem : emoji ∈ splitText ' ' line.2 := (List.of_mem_zip (mem_of_lookup hlookup)).2
  rw [splitText, List.mem_map] at hmem
  obtain ⟨part, hpart, rfl⟩ := hmem
  rw [String.toList_ofList, marks_eq_zero_iff]
  intro c hc
  simpa using emojiLines_unmarked line hline c (mem_of_mem_splitAt hpart hc)

theorem marks_emojiText {emoji : List Char} (h : emojiText? name = some emoji) :
    marks emoji = 0 := by
  rw [emojiText?, Option.map_eq_some_iff] at h
  obtain ⟨found, hfound, rfl⟩ := h
  rw [marks_append, marks_emoji hfound, Nat.zero_add]
  generalize hending : variants.find? _ = ending
  cases ending with
  | none => rfl
  | some variant =>
    have hvariant := List.mem_of_find?_eq_some hending
    simp only [variants, List.mem_cons, List.not_mem_nil, or_false] at hvariant
    rcases hvariant with rfl | rfl <;> decide

theorem namesBetween_head (a b : List Char) (parts : List (List Char)) :
    namesBetween (a :: parts) = namesBetween (b :: parts) := by
  rcases parts with _ | ⟨x, _ | ⟨y, parts⟩⟩ <;> simp [namesBetween]

theorem splitAt_ne_nil (p : Char → Bool) (cs : List Char) : splitAt p cs ≠ [] := by
  rw [splitAt_eq]
  exact List.splitOnP_ne_nil p cs

theorem colonNames_cons (hc : c ≠ ':') : colonNames (c :: cs) = colonNames cs := by
  rw [colonNames, EntityStore.splitAt, if_neg (by simpa using hc), colonNames]
  obtain ⟨first, others, h⟩ := List.exists_cons_of_ne_nil (splitAt_ne_nil (· = ':') cs)
  rw [h]
  exact namesBetween_head _ _ _

theorem splitAt_colon (cs : List Char) :
    splitAt (· = ':') (':' :: cs) = [] :: splitAt (· = ':') cs := by
  rw [EntityStore.splitAt, if_pos (by decide)]

theorem takeWhile_append_drop (p : Char → Bool) (cs : List Char) :
    cs.takeWhile p ++ cs.drop (cs.takeWhile p).length = cs :=
  List.prefix_iff_eq_append.mp (List.takeWhile_prefix p)

theorem nameToColon?_eq_some (h : nameToColon? cs = some (name, after)) :
    cs = name ++ ':' :: after ∧ ∀ c ∈ name, c ≠ ':' ∧ isBlank c = false := by
  unfold nameToColon? at h
  dsimp only at h
  split at h
  next rest hdrop =>
    simp only [Option.some.injEq, Prod.mk.injEq] at h
    obtain ⟨rfl, rfl⟩ := h
    refine ⟨?_, fun c hc => by simpa using List.mem_takeWhile_imp hc⟩
    rw [← hdrop, takeWhile_append_drop]
  next => simp at h

theorem nameToColon?_append (h : ∀ c ∈ name, c ≠ ':' ∧ isBlank c = false) :
    nameToColon? (name ++ ':' :: after) = some (name, after) := by
  have hname : (name ++ ':' :: after).takeWhile (fun c => c ≠ ':' && !isBlank c) = name := by
    rw [List.takeWhile_append_of_pos (fun c hc => by simpa using h c hc)]
    simp
  simp only [nameToColon?, hname, List.drop_left]

theorem colonNames_name (h : nameToColon? cs = some (name, after)) :
    colonNames (':' :: cs) = name :: colonNames after := by
  obtain ⟨rfl, hname⟩ := nameToColon?_eq_some h
  obtain ⟨first, others, hafter⟩ := List.exists_cons_of_ne_nil (splitAt_ne_nil (· = ':') after)
  have hclean : name.any isBlank = false := by
    rw [List.any_eq_false]
    exact fun c hc => by simp [(hname c hc).2]
  rw [colonNames, colonNames, splitAt_colon, splitAt_append (by decide),
    splitAt_free (fun c hc => by simpa using (hname c hc).1), hafter]
  simp [namesBetween, hclean]

theorem colonNames_unnamed (h : nameToColon? cs = none) :
    colonNames (':' :: cs) = colonNames cs := by
  rw [colonNames, colonNames, splitAt_colon]
  cases cs using splitAt_induction (· = ':') with
  | free a ha => simp [splitAt_free ha, namesBetween]
  | append a c b ha hc =>
    obtain rfl : c = ':' := by simpa using hc
    obtain ⟨first, others, hb⟩ := List.exists_cons_of_ne_nil (splitAt_ne_nil (· = ':') b)
    have hblank : a.any isBlank = true := by
      by_contra hclean
      rw [Bool.not_eq_true, List.any_eq_false] at hclean
      refine absurd h ?_
      rw [nameToColon?_append fun c hc => ⟨by simpa using ha c hc, by simpa using hclean c hc⟩]
      simp
    rw [splitAt_append hc, splitAt_free ha, hb]
    simp [namesBetween, hblank]

/-- Emoji only take marks away, and take none away only where there are none. -/
theorem marks_withEmojiFrom {fuel : Nat} (hfuel : cs.length ≤ fuel) :
    marks (withEmojiFrom fuel cs) ≤ marks cs ∧
      (marks cs ≤ marks (withEmojiFrom fuel cs) →
        ∀ name ∈ colonNames cs, emojiText? name = none) := by
  fun_induction withEmojiFrom fuel cs with
  | case1 cs =>
    obtain rfl := List.eq_nil_of_length_eq_zero (Nat.le_zero.mp hfuel)
    simp [colonNames, EntityStore.splitAt, namesBetween]
  | case2 fuel => simp [colonNames, EntityStore.splitAt, namesBetween]
  | case3 fuel rest name after hname ih =>
    obtain ⟨hrest, -⟩ := nameToColon?_eq_some hname
    obtain ⟨hle, heq⟩ := ih (by simp [hrest] at hfuel; omega)
    have hmarks : marks (':' :: rest) = marks (':' :: name ++ [':']) + marks after := by
      rw [hrest, ← marks_append]
      simp
    rw [colonNames_name hname, hmarks, marks_append]
    cases hemoji : emojiText? name with
    | none =>
      simp only [Option.getD_none, List.mem_cons, forall_eq_or_imp, hemoji, true_and]
      exact ⟨by omega, fun h => heq (by omega)⟩
    | some emoji =>
      have hcolon : 0 < marks (':' :: name ++ [':']) := by
        rw [List.cons_append, marks_cons, if_pos (by decide)]
        omega
      simp only [Option.getD_some, marks_emojiText hemoji]
      exact ⟨by omega, fun h => by omega⟩
  | case4 fuel rest hname ih =>
    obtain ⟨hle, heq⟩ := ih (by simpa using hfuel)
    rw [colonNames_unnamed hname, marks_cons, marks_cons]
    exact ⟨by omega, fun h => heq (by omega)⟩
  | case5 fuel c rest hc ih =>
    obtain ⟨hle, heq⟩ := ih (by simpa using hfuel)
    rw [colonNames_cons fun h => hc h, marks_cons, marks_cons]
    exact ⟨by omega, fun h => heq (by omega)⟩

theorem withEmojiFrom_eq {fuel : Nat} (hfuel : cs.length ≤ fuel)
    (h : ∀ name ∈ colonNames cs, emojiText? name = none) : withEmojiFrom fuel cs = cs := by
  fun_induction withEmojiFrom fuel cs with
  | case1 cs => rfl
  | case2 fuel => rfl
  | case3 fuel rest name after hname ih =>
    obtain ⟨hrest, -⟩ := nameToColon?_eq_some hname
    rw [colonNames_name hname, List.forall_mem_cons] at h
    rw [h.1, ih (by simp [hrest] at hfuel; omega) h.2, hrest]
    simp
  | case4 fuel rest hname ih =>
    rw [colonNames_unnamed hname] at h
    rw [ih (by simpa using hfuel) h]
  | case5 fuel c rest hc ih =>
    rw [colonNames_cons fun h => hc h] at h
    rw [ih (by simpa using hfuel) h]

end Emoji

/-! ## Backslashes -/

section Slashes

variable {cs : List Char}

theorem escaped_cons_iff {c : Char} :
    ['\\', '['] <:+: c :: cs ↔ (∃ rest, c :: cs = '\\' :: '[' :: rest) ∨ ['\\', '['] <:+: cs := by
  rw [List.infix_cons_iff]
  refine or_congr_left ⟨?_, ?_⟩
  · rintro ⟨rest, h⟩
    exact ⟨rest, h.symm⟩
  · rintro ⟨rest, h⟩
    exact ⟨rest, h.symm⟩

theorem marks_dropSlashes (cs : List Char) :
    marks (dropSlashes cs) ≤ marks cs ∧
      (marks cs ≤ marks (dropSlashes cs) → ¬ ['\\', '['] <:+: cs) := by
  fun_induction dropSlashes cs with
  | case1 rest ih =>
    have hslash : isMark '\\' = true := by decide
    have hbracket : isMark '[' = true := by decide
    simp only [marks_cons, hslash, hbracket, if_true]
    exact ⟨by omega, fun h => by omega⟩
  | case2 c rest hc ih =>
    obtain ⟨hle, heq⟩ := ih
    rw [marks_cons, marks_cons, escaped_cons_iff]
    refine ⟨by omega, fun h => ?_⟩
    rintro (⟨rest', he⟩ | hrest)
    · obtain ⟨rfl, rfl⟩ := by simpa using he
      exact hc _ rfl rfl
    · exact heq (by omega) hrest
  | case3 => simp

theorem dropSlashes_eq (h : ¬ ['\\', '['] <:+: cs) : dropSlashes cs = cs := by
  fun_induction dropSlashes cs with
  | case1 rest ih => exact absurd (List.prefix_append ['\\', '['] rest).isInfix h
  | case2 c rest hc ih =>
    rw [escaped_cons_iff, not_or] at h
    rw [ih h.2]
  | case3 => rfl

end Slashes

/-! ## Tags -/

section Tags

variable {cs body after : List Char} {slashes : Nat}

theorem tagBody?_eq_some (h : tagBody? cs = some (body, after)) :
    IsTag ('[' :: body ++ [']']) ∧ cs = '[' :: body ++ ']' :: after := by
  unfold tagBody? at h
  split at h
  next c rest =>
    split_ifs at h with hc
    dsimp only at h
    split at h
    next rest' hdrop =>
      simp only [Option.some.injEq, Prod.mk.injEq] at h
      obtain ⟨rfl, rfl⟩ := h
      refine ⟨⟨c, rest.takeWhile fun d => d ≠ '[' && d ≠ ']', hc, fun d hd => ?_, rfl⟩, ?_⟩
      · simpa using List.mem_takeWhile_imp hd
      · rw [List.cons_append, List.cons_append, ← hdrop, takeWhile_append_drop]
    next => simp at h
  next => simp at h

theorem tagBody?_tag {tag : List Char} (h : IsTag tag) (after : List Char) :
    (tagBody? (tag ++ after)).isSome = true := by
  obtain ⟨c, body, hc, hbody, rfl⟩ := h
  have hrun : (body ++ ']' :: after).takeWhile (fun d => d ≠ '[' && d ≠ ']') = body := by
    rw [List.takeWhile_append_of_pos fun d hd => by simpa using hbody d hd]
    simp
  have hcs : '[' :: c :: (body ++ [']']) ++ after = '[' :: c :: (body ++ ']' :: after) := by simp
  rw [hcs, tagBody?, if_pos hc]
  simp only [hrun, List.drop_left, Option.isSome_some]

theorem escapedTag?_eq_some (h : escapedTag? cs = some (slashes, body, after)) :
    IsTag ('[' :: body ++ [']']) ∧
      cs = List.replicate slashes '\\' ++ ('[' :: body ++ ']' :: after) := by
  unfold escapedTag? at h
  simp only [Option.map_eq_some_iff, Prod.mk.injEq] at h
  obtain ⟨⟨body', after'⟩, htag, rfl, rfl, rfl⟩ := h
  obtain ⟨hshape, hcs⟩ := tagBody?_eq_some htag
  refine ⟨hshape, ?_⟩
  have hrun : List.replicate (cs.takeWhile (· = '\\')).length '\\' = cs.takeWhile (· = '\\') :=
    (List.eq_replicate_of_mem fun c hc => by simpa using List.mem_takeWhile_imp hc).symm
  rw [hrun, ← hcs, takeWhile_append_drop]

/-- No tag begins anywhere exactly if none is found. -/
theorem tagless_iff :
    (∀ tag, IsTag tag → ¬ tag <:+: cs) ↔ ∀ rest, rest <:+ cs → escapedTag? rest = none := by
  constructor
  · intro h rest hrest
    by_contra hsome
    obtain ⟨⟨slashes, body, after⟩, hfound⟩ := Option.ne_none_iff_exists'.mp hsome
    obtain ⟨htag, hcs⟩ := escapedTag?_eq_some hfound
    refine h _ htag (List.IsInfix.trans ⟨List.replicate slashes '\\', after, ?_⟩ hrest.isInfix)
    rw [hcs]
    simp
  · rintro h tag htag ⟨before, after, rfl⟩
    have hnone := h (tag ++ after) ⟨before, by simp⟩
    have hsome := tagBody?_tag htag after
    obtain ⟨c, body, -, -, rfl⟩ := htag
    have hfound : escapedTag? ('[' :: c :: (body ++ [']']) ++ after) ≠ none := by
      simpa [escapedTag?, Option.isSome_iff_ne_none] using hsome
    exact hfound hnone

instance (cs : List Char) : Decidable (Unmarked cs) :=
  decidable_of_iff ((∀ rest ∈ cs.tails, escapedTag? rest = none) ∧ ¬ ['\\', '['] <:+: cs ∧
      (∀ name ∈ colonNames cs, emojiText? name = none) ∧
      cs.all (fun c => !isStripped c || isBlank c) = true)
    ⟨fun ⟨htags, hescaped, hnames, hshown⟩ =>
      ⟨tagless_iff.mpr fun rest hrest => htags rest ((List.mem_tails _ _).mpr hrest), hescaped, hnames,
        fun c hc hstripped => by simpa [hstripped] using List.all_eq_true.mp hshown c hc⟩,
    fun h => ⟨fun rest hrest => tagless_iff.mp h.tagless rest ((List.mem_tails _ _).mp hrest),
      h.unescaped, h.nameless, List.all_eq_true.mpr fun c hc => by
        cases hstripped : isStripped c with
        | false => rfl
        | true => simp [h.shown c hc hstripped]⟩⟩

/-- The marks of the plain pieces. -/
def plainMarks (ps : List Piece) : Nat :=
  (ps.map fun
    | .plain cs => marks cs
    | .tag _ _ => 0).sum

@[simp] theorem plainMarks_append (ps qs : List Piece) :
    plainMarks (ps ++ qs) = plainMarks ps + plainMarks qs := by
  simp [plainMarks]

theorem plainMarks_seen (cs : List Char) :
    plainMarks (if cs.isEmpty then [] else [.plain cs.reverse]) = marks cs := by
  cases cs with
  | nil => rfl
  | cons c cs => simp only [plainMarks, List.isEmpty_cons, Bool.false_eq_true, if_false,
      List.map_cons, List.map_nil, List.sum_singleton, marks_reverse]

theorem marks_bracketed (body : List Char) (after : List Char) :
    marks ('[' :: body ++ ']' :: after) = marks body + marks after + 1 := by
  have hopen : isMark '[' = true := by decide
  have hclose : isMark ']' = false := by decide
  simp only [List.cons_append, marks_cons, marks_append, hopen, hclose, if_true, if_false,
    Bool.false_eq_true, Nat.add_zero]

/-- A tag becomes half its backslashes, and at most one of them is spent on it. -/
theorem plainMarks_tagPieces (position slashes : Nat) (body : List Char) :
    plainMarks (tagPieces position slashes body) < slashes + 1 + marks body := by
  have hshown : plainMarks (if (List.replicate (slashes / 2) '\\').isEmpty then []
      else [.plain (List.replicate (slashes / 2) '\\')]) = slashes / 2 := by
    have := plainMarks_seen (List.replicate (slashes / 2) '\\')
    rwa [List.reverse_replicate, marks_replicate_slash] at this
  rw [tagPieces, plainMarks_append, hshown]
  split_ifs with hodd
  · have hbody : plainMarks [.plain ('[' :: body ++ [']'])] = marks body + 1 := by
      simp only [plainMarks, List.map_cons, List.map_nil, List.sum_singleton, marks_bracketed,
        marks_nil, Nat.add_zero]
    omega
  · have hbody : plainMarks [.tag (position + slashes) (Tag.ofChars body)] = 0 := rfl
    omega

/-- Tags only take marks away, and take none away only where there are none. -/
theorem plainMarks_piecesFrom {fuel position : Nat} {seen : List Char} (hfuel : cs.length < fuel) :
    plainMarks (piecesFrom fuel position seen cs) ≤ marks seen + marks cs ∧
      (marks seen + marks cs ≤ plainMarks (piecesFrom fuel position seen cs) →
        ∀ rest, rest <:+ cs → escapedTag? rest = none) := by
  have hend : ∀ rest : List Char, rest <:+ [] → escapedTag? rest = none := by
    simp only [List.suffix_nil, forall_eq]
    decide
  fun_induction piecesFrom fuel position seen cs with
  | case1 => simp at hfuel
  | case2 fuel position seen hseen => exact ⟨Nat.zero_le _, fun _ => hend⟩
  | case3 fuel position seen hseen => simpa [plainMarks] using hend
  | case4 fuel position seen c rest slashes body after hfound ih =>
    obtain ⟨-, hcs⟩ := escapedTag?_eq_some hfound
    have hlength : after.length < fuel := by
      have := congrArg List.length hcs
      simp only [List.length_cons, List.length_append] at this hfuel
      omega
    have hmarks : marks (c :: rest) = slashes + (marks body + marks after + 1) := by
      rw [hcs, marks_append, marks_replicate_slash, marks_bracketed]
    have htag := plainMarks_tagPieces position slashes body
    have hrest := (ih hlength).1
    rw [marks_nil] at hrest
    simp only [plainMarks_append, plainMarks_seen, hmarks]
    exact ⟨by omega, fun h => by omega⟩
  | case5 fuel position seen c rest hnone ih =>
    obtain ⟨hle, heq⟩ := ih (by simpa using hfuel)
    rw [marks_cons] at hle heq
    rw [marks_cons]
    refine ⟨by omega, fun h rest' hrest' => ?_⟩
    rcases List.suffix_cons_iff.mp hrest' with rfl | hrest'
    · exact hnone
    · exact heq (by omega) rest' hrest'

theorem plainMarks_pieces (cs : List Char) :
    plainMarks (pieces cs) ≤ marks cs ∧
      (marks cs ≤ plainMarks (pieces cs) → ∀ rest, rest <:+ cs → escapedTag? rest = none) := by
  have h := @plainMarks_piecesFrom cs _ 0 [] (Nat.lt_succ_self cs.length)
  rwa [marks_nil, Nat.zero_add] at h

theorem piecesFrom_eq {fuel position : Nat} {seen : List Char} (hfuel : cs.length < fuel)
    (h : ∀ rest, rest <:+ cs → escapedTag? rest = none) (hne : seen ≠ [] ∨ cs ≠ []) :
    piecesFrom fuel position seen cs = [.plain (seen.reverse ++ cs)] := by
  fun_induction piecesFrom fuel position seen cs with
  | case1 => simp at hfuel
  | case2 fuel position seen hseen => simp_all
  | case3 fuel position seen hseen => simp
  | case4 fuel position seen c rest slashes body after hfound ih =>
    rw [h _ (List.suffix_refl _)] at hfound
    exact absurd hfound (by simp)
  | case5 fuel position seen c rest hnone ih =>
    rw [ih (by simpa using hfuel) (fun rest' hrest' => h rest' (hrest'.trans (List.suffix_cons _ _)))
      (.inl (by simp))]
    simp

end Tags

/-! ## Rendering -/

section Rendering

variable {s : String} {cs out : List Char}

theorem marks_withEmoji (cs : List Char) :
    marks (withEmoji cs) ≤ marks cs ∧
      (marks cs ≤ marks (withEmoji cs) → ∀ name ∈ colonNames cs, emojiText? name = none) :=
  marks_withEmojiFrom (le_refl _)

theorem marks_strip_le (cs : List Char) : marks (strip cs) ≤ marks cs :=
  marks_le List.filter_sublist

theorem marks_renderPieces {isOpen : List String} {ps : List Piece}
    (h : renderPieces isOpen ps = .ok out) : marks out ≤ plainMarks ps := by
  induction ps generalizing isOpen out with
  | nil =>
    obtain rfl : [] = out := by simpa [renderPieces] using h
    exact Nat.zero_le _
  | cons p ps ih =>
    cases p with
    | plain cs =>
      obtain ⟨rest, hrest, rfl⟩ := map_ok.mp h
      have hcs := (marks_withEmoji (dropSlashes cs)).1.trans (marks_dropSlashes cs).1
      have hps : plainMarks (.plain cs :: ps) = marks cs + plainMarks ps := rfl
      rw [marks_append, hps]
      exact Nat.add_le_add hcs (ih hrest)
    | tag position t =>
      obtain ⟨isOpen', -, hrest⟩ := bind_ok.mp h
      have hps : plainMarks (.tag position t :: ps) = plainMarks ps := Nat.zero_add _
      rw [hps]
      exact ih hrest

theorem IsTag.bracket {tag : List Char} (h : IsTag tag) : '[' ∈ tag := by
  obtain ⟨c, body, -, -, rfl⟩ := h
  exact List.mem_cons_self

/-- Rendering takes marks away only, and takes none away only from a text without markup. -/
theorem marks_render (h : render s = .ok out) :
    marks out ≤ marks s.toList ∧
      (marks s.toList ≤ marks out → (∀ c ∈ s.toList, isStripped c = true → isBlank c = true) →
        Unmarked s.toList) := by
  unfold render at h
  split_ifs at h with hbracket
  · obtain ⟨shown, hshown, rfl⟩ := map_ok.mp h
    have hpieces := plainMarks_pieces s.toList
    have hstrip := marks_strip_le shown
    have hrendered := marks_renderPieces hshown
    refine ⟨by omega, fun hle hcontrols => ?_⟩
    have hfree := hpieces.2 (by omega)
    have hcs : s.toList ≠ [] := by
      rintro he
      simp [he] at hbracket
    rw [pieces, piecesFrom_eq (Nat.lt_succ_self _) hfree (.inr hcs)] at hshown
    obtain rfl : withEmoji (dropSlashes s.toList) = shown := by
      simpa [renderPieces, Except.map] using hshown
    have hslashes := marks_dropSlashes s.toList
    have hemoji := marks_withEmoji (dropSlashes s.toList)
    have hunescaped := hslashes.2 (by omega)
    have hnameless := hemoji.2 (by omega)
    rw [dropSlashes_eq hunescaped] at hnameless
    exact ⟨tagless_iff.mpr hfree, hunescaped, hnameless, hcontrols⟩
  · obtain rfl : strip (withEmoji s.toList) = out := by simpa using h
    have hstrip := marks_strip_le (withEmoji s.toList)
    have hemoji := marks_withEmoji s.toList
    have hnone : '[' ∉ s.toList := by simpa using hbracket
    refine ⟨by omega, fun hle hcontrols => ⟨?_, ?_, hemoji.2 (by omega), hcontrols⟩⟩
    · exact fun tag htag hin => hnone (hin.subset htag.bracket)
    · exact fun hin => hnone (hin.subset (by simp))

theorem not_stripped_render (h : render s = .ok out) : ∀ c ∈ out, isStripped c = false := by
  have hstrip : ∀ cs, ∀ c ∈ strip cs, isStripped c = false := by simp [strip]
  unfold render at h
  split_ifs at h
  · obtain ⟨shown, -, rfl⟩ := map_ok.mp h
    exact hstrip shown
  · obtain rfl : strip (withEmoji s.toList) = out := by simpa using h
    exact hstrip _

theorem Unmarked.render (h : Unmarked s.toList) : render s = .ok (strip s.toList) := by
  have hemoji : withEmoji s.toList = s.toList := withEmojiFrom_eq (le_refl _) h.nameless
  unfold Console.render
  split_ifs with hbracket
  · have hcs : s.toList ≠ [] := by
      rintro he
      simp [he] at hbracket
    rw [pieces, piecesFrom_eq (Nat.lt_succ_self _) (tagless_iff.mp h.tagless) (.inr hcs)]
    simp [renderPieces, Except.map, dropSlashes_eq h.unescaped, hemoji]
  · rw [hemoji]

theorem Unmarked.ink_strip (h : Unmarked cs) : ink (strip cs) = ink cs := by
  rw [ink, strip, List.filter_filter, ink]
  refine List.filter_congr fun c hc => ?_
  cases hstripped : isStripped c with
  | false => simp
  | true => simp [h.shown c hc hstripped]

theorem AttachedFrom.filter {based : Bool} {keep : Char → Bool} (h : AttachedFrom based cs)
    (hkeep : ∀ c ∈ cs, keep c = false → isBlank c = true) :
    AttachedFrom based (cs.filter keep) := by
  have hkept : ∀ c ∈ cs, isBlank c = false → keep c = true := fun c hc hblank => by
    by_contra hno
    rw [hkeep c hc (by simpa using hno)] at hblank
    exact Bool.noConfusion hblank
  induction h with
  | nil => exact .nil _
  | @joined d rest hd _ ih =>
    rw [List.filter_cons_of_pos (hkept joiner (by simp) (by decide)),
      List.filter_cons_of_pos (hkept d (by simp) hd)]
    exact .joined hd (ih (fun c hc => hkeep c (by simp [hc])) fun c hc => hkept c (by simp [hc]))
  | @marked rest _ ih =>
    rw [List.filter_cons_of_pos (hkept presentationMark (by simp) (by decide))]
    exact .marked (ih (fun c hc => hkeep c (by simp [hc])) fun c hc => hkept c (by simp [hc]))
  | @other based c rest hj hm h ih =>
    have ih := ih (fun c hc => hkeep c (by simp [hc])) fun c hc => hkept c (by simp [hc])
    cases hc : keep c with
    | true =>
      rw [List.filter_cons_of_pos hc]
      exact .other hj hm ih
    | false =>
      rw [List.filter_cons_of_neg (by simp [hc])]
      simp only [hkeep c (by simp) hc, Bool.not_true, Bool.false_and] at ih
      exact Attached.from ih

theorem Unmarked.attached_strip (h : Unmarked cs) (hcs : Attached cs) : Attached (strip cs) :=
  AttachedFrom.filter hcs fun c hc hstripped => h.shown c hc (by simpa using hstripped)

end Rendering

end Console

end EntityStore
