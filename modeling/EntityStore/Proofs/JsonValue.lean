import EntityStore.Proofs.JsonText

/-! # Values in JSON

A value that JSON has a form for is read back from its text, lists and mappings item by item. The
reading takes no more steps than the text has characters.
-/
namespace EntityStore

namespace Json

/-- The values with a text that says all of them. -/
inductive Readable : Value → Prop where
  | null : Readable .null
  | bool (b : Bool) : Readable (.bool b)
  | int {n : ℤ} (short : digitCount n.natAbs ≤ maxDigits) : Readable (.int n)
  | float (x : Binary64) : Readable (.float x)
  | text (s : String) : Readable (.text s)
  | list {items : List Value} (readable : ∀ v ∈ items, Readable v) : Readable (.list items)
  | mapping {entries : List (String × Value)} (distinct : (entries.map (·.1)).Nodup)
    (readable : ∀ e ∈ entries, Readable e.2) : Readable (.mapping entries)

/-! ## Beginnings and ends -/

/-- A text that begins as a value does, not with a blank or a closing bracket. -/
def Opens (text : List Char) : Prop :=
  ∃ c rest, text = c :: rest ∧ isSpace c = false ∧ c ≠ ']' ∧ c ≠ '\x7d' ∧ c ≠ '\ufeff'

section Values

variable {depth steps : ℕ} {rest : List Char}

theorem Opens.append {text : List Char} (h : Opens text) (more : List Char) :
    Opens (text ++ more) := by
  obtain ⟨c, tail, rfl, hc⟩ := h
  exact ⟨c, tail ++ more, rfl, hc⟩

theorem skipSpace_cons {c : Char} (hc : isSpace c = false) (rest : List Char) :
    skipSpace (c :: rest) = c :: rest := by
  simp [skipSpace, hc]

theorem Opens.skipSpace {text : List Char} (h : Opens text) : skipSpace text = text := by
  obtain ⟨c, tail, rfl, hc, -⟩ := h
  exact skipSpace_cons hc tail

theorem toList_newline (depth : ℕ) :
    (newline depth).toList = '\n' :: List.replicate (2 * depth) ' ' := by
  simp [newline]

theorem skipSpace_newline (depth : ℕ) (rest : List Char) :
    skipSpace ((newline depth).toList ++ rest) = skipSpace rest := by
  have hblank : ∀ c ∈ (newline depth).toList, isSpace c = true := by
    simp [toList_newline, isSpace]
  exact List.dropWhile_append_of_pos hblank

theorem closes_newline (depth : ℕ) (rest : List Char) :
    Closes ((newline depth).toList ++ rest) := by
  simp [Closes, toList_newline]

theorem closes_comma (rest : List Char) : Closes (',' :: rest) := by simp [Closes]

theorem textLiteral_quote (s : String) : ∃ body, (textLiteral s).toList = '"' :: body :=
  ⟨_, by simp [textLiteral]; rfl⟩

/-! ## Scalars -/

theorem readValue_text (s : String) : readValue (steps + 1) ((textLiteral s).toList ++ rest) =
    .ok (.text s, rest) := by
  have hread := readText_textLiteral s rest
  obtain ⟨body, hbody⟩ := textLiteral_quote s
  rw [hbody, List.cons_append] at hread ⊢
  rw [readValue, hread]

/-- A number begins with a digit, or with a sign and a digit. -/
theorem spells_head {cs : List Char} {s : Bool} {c : ℕ} {x : ℤ} (hs : Spells cs s c x) :
    ∃ d more, cs = (if s then ['-'] else []) ++ d :: more ∧ d.isDigit = true := by
  cases hs with
  | @intro _ whole fraction tail shift hw hf hne htight ht =>
    obtain ⟨d, more, htext, hd⟩ := @pointText_head whole fraction tail hw hne
    exact ⟨d, more, by rw [htext], hd⟩

theorem readName?_number (s : Bool) {d : Char} (hd : d.isDigit = true) (more : List Char) :
    readName? ((if s then ['-'] else []) ++ d :: more) = none := by
  have hletter : d ≠ 'n' ∧ d ≠ 't' ∧ d ≠ 'f' ∧ d ≠ 'N' ∧ d ≠ 'I' ∧ d ≠ '-' := by
    refine ⟨?_, ?_, ?_, ?_, ?_, ?_⟩ <;> (rintro rfl; cases hd)
  obtain ⟨hn, ht, hf, hN, hI, hm⟩ := hletter
  cases s <;> simp [readName?, names, hn.symm, ht.symm, hf.symm, hN.symm, hI.symm, hm.symm]

theorem readValue_number {cs : List Char} {s : Bool} {c : ℕ} {x : ℤ} (hs : Spells cs s c x)
    {v : Value} (hread : readNumber? (cs ++ rest) = some (.ok (v, rest))) :
    readValue (steps + 1) (cs ++ rest) = .ok (v, rest) := by
  obtain ⟨d, more, rfl, hd⟩ := spells_head hs
  have hopen : d ≠ '"' ∧ d ≠ '\x7b' ∧ d ≠ '[' := by
    refine ⟨?_, ?_, ?_⟩ <;> (rintro rfl; cases hd)
  have hname := readName?_number s hd (more ++ rest)
  rw [List.append_assoc, List.cons_append] at hread ⊢
  rw [readValue, hname]
  · simp only [hread]
  all_goals
    intro after heq
    cases s with
    | true => exact absurd (List.cons.inj heq).1 (by decide)
    | false => exact absurd (List.cons.inj heq).1 (by simp [hopen])

theorem opens_number {cs : List Char} {s : Bool} {c : ℕ} {x : ℤ} (hs : Spells cs s c x) :
    Opens cs := by
  obtain ⟨d, more, rfl, hd⟩ := spells_head hs
  cases s with
  | true => exact ⟨'-', d :: more, rfl, by decide⟩
  | false =>
    refine ⟨d, more, rfl, ?_, ?_, ?_, ?_⟩
    · simp only [isSpace, Bool.or_eq_false_iff, decide_eq_false_iff_not]
      refine ⟨⟨⟨?_, ?_⟩, ?_⟩, ?_⟩ <;> (rintro rfl; cases hd)
    all_goals
      rintro rfl
      cases hd

/-- The text of a value is read back in one step. -/
structure Scalar (v : Value) (text : String) : Prop where
  opens : Opens text.toList
  read (steps : ℕ) {rest : List Char} (h : Closes rest) :
    readValue (steps + 1) (text.toList ++ rest) = .ok (v, rest)

theorem scalar_null : Scalar .null "null" := ⟨⟨'n', _, rfl, by decide⟩, fun _ _ _ => rfl⟩

theorem scalar_bool (b : Bool) : Scalar (.bool b) (if b then "true" else "false") := by
  cases b with
  | true => exact ⟨⟨'t', _, rfl, by decide⟩, fun _ _ _ => rfl⟩
  | false => exact ⟨⟨'f', _, rfl, by decide⟩, fun _ _ _ => rfl⟩

theorem scalar_int {n : ℤ} (hn : digitCount n.natAbs ≤ maxDigits) :
    Scalar (.int n) (toString n) :=
  ⟨opens_number (spells_toString n),
    fun _ _ h => readValue_number (spells_toString n) (readNumber?_toString hn h)⟩

theorem scalar_float (x : Binary64) : Scalar (.float x) (floatText x) := by
  cases x with
  | nan => exact ⟨⟨'N', _, rfl, by decide⟩, fun _ _ _ => rfl⟩
  | infinity s =>
    cases s with
    | true => exact ⟨⟨'-', _, rfl, by decide⟩, fun _ _ _ => rfl⟩
    | false => exact ⟨⟨'I', _, rfl, by decide⟩, fun _ _ _ => rfl⟩
  | finite s m e hf =>
    obtain ⟨c, k, hspells, -⟩ := Binary64.toText_spells s hf
    exact ⟨opens_number hspells,
      fun _ _ h => readValue_number hspells (readNumber?_toText rfl h)⟩

theorem scalar_text (s : String) : Scalar (.text s) (textLiteral s) := by
  refine ⟨?_, fun _ _ _ => readValue_text s⟩
  obtain ⟨body, hbody⟩ := textLiteral_quote s
  exact ⟨'"', body, hbody, by decide⟩

/-! ## Lists and mappings -/

theorem writeItems_eq (items : List Value) : writeItems depth items = items.map (write depth) := by
  induction items with
  | nil => rfl
  | cons v items ih => rw [writeItems, ih, List.map_cons]

def entryText (depth : ℕ) (e : String × Value) : String :=
  textLiteral e.1 ++ ": " ++ write depth e.2

theorem writeEntries_eq (entries : List (String × Value)) :
    writeEntries depth entries = entries.map (entryText depth) := by
  induction entries with
  | nil => rfl
  | cons e entries ih => rw [writeEntries, ih, List.map_cons, entryText]

/-- Texts with a comma and a line break between them. -/
def joined (depth : ℕ) (texts : List String) : List Char :=
  List.intercalate (',' :: (newline depth).toList) (texts.map String.toList)

theorem joined_cons_cons (depth : ℕ) (t u : String) (texts : List String) :
    joined depth (t :: u :: texts) =
      t.toList ++ ',' :: ((newline depth).toList ++ joined depth (u :: texts)) := by
  simp [joined, List.intercalate_cons_cons]

theorem joined_singleton (depth : ℕ) (t : String) : joined depth [t] = t.toList := by
  simp [joined, List.intercalate]

theorem opens_joined {texts : List String} (hne : texts ≠ [])
    (h : ∀ t ∈ texts, Opens t.toList) : Opens (joined depth texts) := by
  rcases texts with _ | ⟨t, _ | ⟨u, texts⟩⟩
  · exact absurd rfl hne
  · rw [joined_singleton]
    exact h t (by simp)
  · rw [joined_cons_cons]
    exact (h t (by simp)).append _

theorem toList_intercalate (depth : ℕ) (texts : List String) :
    (String.intercalate ("," ++ newline depth) texts).toList = joined depth texts := by
  rw [String.toList_intercalate, joined, String.toList_append]
  rfl

theorem toList_list {items : List Value} (hne : items ≠ []) (rest : List Char) :
    (write depth (.list items)).toList ++ rest = '[' :: ((newline (depth + 1)).toList ++
      (joined (depth + 1) (items.map (write (depth + 1))) ++
        ((newline depth).toList ++ ']' :: rest))) := by
  cases items with
  | nil => exact absurd rfl hne
  | cons v items =>
    rw [write, writeItems_eq]
    · simp only [String.toList_append, toList_intercalate, List.append_assoc]
      rfl
    · nofun

theorem toList_mapping {entries : List (String × Value)} (hne : entries ≠ []) (rest : List Char) :
    (write depth (.mapping entries)).toList ++ rest = '\x7b' :: ((newline (depth + 1)).toList ++
      (joined (depth + 1) (entries.map (entryText (depth + 1))) ++
        ((newline depth).toList ++ '\x7d' :: rest))) := by
  cases entries with
  | nil => exact absurd rfl hne
  | cons e entries =>
    rw [write, writeEntries_eq]
    · simp only [String.toList_append, toList_intercalate, List.append_assoc]
      rfl
    · nofun

/-- The text of a value opens it and is read back, with as many steps as it has characters. -/
structure Written (v : Value) (depth : ℕ) : Prop where
  opens : Opens (write depth v).toList
  read {steps : ℕ} (enough : (write depth v).toList.length ≤ steps) {rest : List Char}
    (h : Closes rest) : readValue steps ((write depth v).toList ++ rest) = .ok (v, rest)

theorem Scalar.written {v : Value} {text : String} (h : Scalar v text)
    (htext : write depth v = text) :
    Written v depth := by
  subst htext
  refine ⟨h.opens, fun {steps} henough => ?_⟩
  obtain ⟨c, tail, htext, -⟩ := h.opens
  rw [htext, List.length_cons] at henough
  obtain ⟨n, rfl⟩ : ∃ n, steps = n + 1 := ⟨steps - 1, by omega⟩
  exact fun hrest => h.read n hrest

section Items

variable {v : Value} {soFar : List Value} {after : List Char}

theorem readItems_last (hv : Written v depth) (hsteps : (write depth v).toList.length ≤ steps)
    (hrest : Closes rest) (hend : skipSpace rest = ']' :: after) :
    readItems (steps + 1) soFar ((write depth v).toList ++ rest) =
      .ok (.list (v :: soFar).reverse, after) := by
  rw [readItems]
  simp only [hv.read hsteps hrest, hend]

theorem readItems_comma (hv : Written v depth) (hsteps : (write depth v).toList.length ≤ steps)
    (hrest : Closes rest) (hcomma : skipSpace rest = ',' :: after) :
    readItems (steps + 1) soFar ((write depth v).toList ++ rest) =
      readItems steps (v :: soFar) (skipSpace after) := by
  rw [readItems]
  simp only [hv.read hsteps hrest, hcomma]

end Items

theorem opens_items {items : List Value} (hne : items ≠ []) (h : ∀ v ∈ items, Written v depth) :
    Opens (joined depth (items.map (write depth))) := by
  refine opens_joined (by simpa using hne) ?_
  simpa using fun v hv => (h v hv).opens

theorem readItems_joined {outer : ℕ} {items soFar : List Value} (hne : items ≠ [])
    (hitems : ∀ v ∈ items, Written v depth)
    (hsteps : (joined depth (items.map (write depth))).length < steps) :
    readItems steps soFar (joined depth (items.map (write depth)) ++
      ((newline outer).toList ++ ']' :: rest)) = .ok (.list (soFar.reverse ++ items), rest) := by
  obtain ⟨steps, rfl⟩ : ∃ n, steps = n + 1 := ⟨steps - 1, by omega⟩
  -- an item takes one step, and the comma behind it pays for that
  induction items generalizing steps soFar with
  | nil => exact absurd rfl hne
  | cons v items ih =>
    have hv := hitems v (by simp)
    cases items with
    | nil =>
      rw [List.map_singleton, joined_singleton] at hsteps ⊢
      have hend : skipSpace ((newline outer).toList ++ ']' :: rest) = ']' :: rest := by
        rw [skipSpace_newline, skipSpace_cons (by decide)]
      rw [readItems_last hv (by omega) (closes_newline _ _) hend]
      simp
    | cons w items =>
      have hmore : ∀ u ∈ w :: items, Written u depth :=
        fun u hu => hitems u (List.mem_cons_of_mem _ hu)
      have hopens := opens_items (by simp) hmore
      simp only [List.map_cons] at hsteps hopens ih ⊢
      rw [joined_cons_cons] at hsteps ⊢
      simp only [List.length_append, List.length_cons] at hsteps
      obtain ⟨steps, rfl⟩ : ∃ n, steps = n + 1 := ⟨steps - 1, by omega⟩
      simp only [List.append_assoc, List.cons_append]
      rw [readItems_comma hv (by omega) (closes_comma _) (skipSpace_cons (by decide) _),
        skipSpace_newline, (hopens.append _).skipSpace, ih (by simp) hmore steps (by omega)]
      simp

theorem putEntry_new {entries : List (String × Value)} {key : String} {v : Value}
    (h : key ∉ entries.map (·.1)) : putEntry entries key v = entries ++ [(key, v)] := by
  have hany : entries.any (·.1 = key) = false := by
    rw [List.any_eq_false]
    intro entry hentry hkey
    exact h (List.mem_map.mpr ⟨entry, hentry, by simpa using hkey⟩)
  rw [putEntry, hany]
  simp

theorem toList_entryText (e : String × Value) :
    (entryText depth e).toList =
      (textLiteral e.1).toList ++ ':' :: ' ' :: (write depth e.2).toList := by
  simp [entryText]

section Entries

variable {e : String × Value} {entries : List (String × Value)} {after : List Char}

/-- What follows an entry: the end of the mapping, or a comma and more entries. -/
def afterEntry (steps : ℕ) (entries : List (String × Value)) (rest : List Char) : Step Value :=
  match skipSpace rest with
  | '\x7d' :: after => .ok (.mapping entries, after)
  | ',' :: after => readEntries steps entries (skipSpace after)
  | other => stopAt .expectedComma other

theorem readEntries_entry (he : Written e.2 depth)
    (hsteps : (write depth e.2).toList.length ≤ steps) (hrest : Closes rest) :
    readEntries (steps + 1) entries ((entryText depth e).toList ++ rest) =
      afterEntry steps (putEntry entries e.1 e.2) rest := by
  have hkey := readText_textLiteral e.1 (':' :: ' ' :: ((write depth e.2).toList ++ rest))
  obtain ⟨body, hbody⟩ := textLiteral_quote e.1
  have hblank : skipSpace (' ' :: ((write depth e.2).toList ++ rest)) =
      (write depth e.2).toList ++ rest := (he.opens.append rest).skipSpace
  simp only [toList_entryText, hbody, List.cons_append, List.append_assoc] at hkey ⊢
  rw [readEntries, hkey]
  simp only [skipSpace_cons (show isSpace ':' = false by decide), hblank, he.read hsteps hrest]
  rfl

theorem afterEntry_last (hend : skipSpace rest = '\x7d' :: after) :
    afterEntry steps entries rest = .ok (.mapping entries, after) := by
  simp only [afterEntry, hend]

theorem afterEntry_comma (hcomma : skipSpace rest = ',' :: after) :
    afterEntry steps entries rest = readEntries steps entries (skipSpace after) := by
  simp only [afterEntry, hcomma]

end Entries

theorem opens_entries {entries : List (String × Value)} (hne : entries ≠ []) :
    Opens (joined depth (entries.map (entryText depth))) := by
  refine opens_joined (by simpa using hne) ?_
  simp only [List.mem_map, forall_exists_index, and_imp, forall_apply_eq_imp_iff₂]
  intro e _
  rw [toList_entryText]
  exact (scalar_text e.1).opens.append _

theorem readEntries_joined {outer : ℕ} {entries soFar : List (String × Value)} (hne : entries ≠ [])
    (hentries : ∀ e ∈ entries, Written e.2 depth)
    (hdistinct : ((soFar ++ entries).map (·.1)).Nodup)
    (hsteps : (joined depth (entries.map (entryText depth))).length < steps) :
    readEntries steps soFar (joined depth (entries.map (entryText depth)) ++
      ((newline outer).toList ++ '\x7d' :: rest)) = .ok (.mapping (soFar ++ entries), rest) := by
  obtain ⟨steps, rfl⟩ : ∃ n, steps = n + 1 := ⟨steps - 1, by omega⟩
  induction entries generalizing steps soFar with
  | nil => exact absurd rfl hne
  | cons e entries ih =>
    have he := hentries e (by simp)
    have hlength : (write depth e.2).toList.length ≤ (entryText depth e).toList.length := by
      simp only [toList_entryText, List.length_append, List.length_cons]
      omega
    have hput : putEntry soFar e.1 e.2 = soFar ++ [e] := by
      refine putEntry_new fun hmem => ?_
      rw [List.map_append, List.nodup_append] at hdistinct
      exact hdistinct.2.2 _ hmem e.1 (by simp) rfl
    cases entries with
    | nil =>
      rw [List.map_singleton, joined_singleton] at hsteps ⊢
      have hend : skipSpace ((newline outer).toList ++ '\x7d' :: rest) = '\x7d' :: rest := by
        rw [skipSpace_newline, skipSpace_cons (by decide)]
      rw [readEntries_entry he (by omega) (closes_newline _ _), afterEntry_last hend, hput]
    | cons f entries =>
      have hmore : ∀ g ∈ f :: entries, Written g.2 depth :=
        fun g hg => hentries g (List.mem_cons_of_mem _ hg)
      have hopens := @opens_entries depth (f :: entries) (by simp)
      simp only [List.map_cons] at hsteps hopens ih ⊢
      rw [joined_cons_cons] at hsteps ⊢
      simp only [List.length_append, List.length_cons] at hsteps
      obtain ⟨steps, rfl⟩ : ∃ n, steps = n + 1 := ⟨steps - 1, by omega⟩
      simp only [List.append_assoc, List.cons_append]
      rw [readEntries_entry he (by omega) (closes_comma _),
        afterEntry_comma (skipSpace_cons (by decide) _), skipSpace_newline,
        (hopens.append _).skipSpace, hput,
        ih (by simp) hmore (by simpa using hdistinct) steps (by omega)]
      simp

/-! ## Whole values -/

theorem scalar_emptyList : Scalar (.list []) "[]" := ⟨⟨'[', _, rfl, by decide⟩, fun _ _ _ => rfl⟩

theorem scalar_emptyMapping : Scalar (.mapping []) "\x7b\x7d" :=
  ⟨⟨'\x7b', _, rfl, by decide⟩, fun _ _ _ => rfl⟩

theorem readValue_bracket {inner : List Char} (h : Opens inner) :
    readValue (steps + 1) ('[' :: ((newline depth).toList ++ inner)) =
      readItems steps [] inner := by
  rw [readValue, skipSpace_newline, h.skipSpace]
  obtain ⟨c, tail, rfl, -, hc, -⟩ := h
  split
  next heq => exact absurd (List.cons.inj heq).1 hc
  next => rfl

theorem readValue_brace {inner : List Char} (h : Opens inner) :
    readValue (steps + 1) ('\x7b' :: ((newline depth).toList ++ inner)) =
      readEntries steps [] inner := by
  rw [readValue, skipSpace_newline, h.skipSpace]
  obtain ⟨c, tail, rfl, -, -, hc, -⟩ := h
  split
  next heq => exact absurd (List.cons.inj heq).1 hc
  next => rfl

/-- A value between brackets is written so that it can be read if the reader of what stands between
them comes to the value. -/
theorem written_of_inside {v : Value} {bracket close : Char} {inside : List Char}
    (hopens : ∀ tail, Opens (bracket :: tail))
    (htext : ∀ rest, (write depth v).toList ++ rest = bracket ::
      ((newline (depth + 1)).toList ++ (inside ++ ((newline depth).toList ++ close :: rest))))
    (hread : ∀ steps rest, inside.length < steps → readValue (steps + 1) (bracket ::
      ((newline (depth + 1)).toList ++ (inside ++ ((newline depth).toList ++ close :: rest)))) =
        .ok (v, rest)) : Written v depth := by
  have hwhole := htext []
  rw [List.append_nil] at hwhole
  refine ⟨hwhole ▸ hopens _, fun {steps} henough {rest} _ => ?_⟩
  rw [hwhole] at henough
  simp only [List.length_cons, List.length_append] at henough
  obtain ⟨steps, rfl⟩ : ∃ n, steps = n + 1 := ⟨steps - 1, by omega⟩
  rw [htext]
  exact hread steps rest (by omega)

theorem written_list {items : List Value} (hne : items ≠ [])
    (h : ∀ v ∈ items, Written v (depth + 1)) : Written (.list items) depth := by
  refine written_of_inside (fun tail => ⟨'[', tail, rfl, by decide⟩) (toList_list hne) ?_
  intro steps rest hsteps
  rw [readValue_bracket ((opens_items hne h).append _), readItems_joined hne h hsteps]
  rfl

theorem written_mapping {entries : List (String × Value)} (hne : entries ≠ [])
    (hdistinct : (entries.map (·.1)).Nodup) (h : ∀ e ∈ entries, Written e.2 (depth + 1)) :
    Written (.mapping entries) depth := by
  refine written_of_inside (fun tail => ⟨'\x7b', tail, rfl, by decide⟩) (toList_mapping hne) ?_
  intro steps rest hsteps
  rw [readValue_brace ((opens_entries hne).append _),
    readEntries_joined hne h (by rwa [List.nil_append]) hsteps]
  rfl

theorem Readable.written {v : Value} (h : Readable v) (depth : ℕ) : Written v depth := by
  induction h generalizing depth with
  | null => exact scalar_null.written rfl
  | bool b => exact (scalar_bool b).written rfl
  | int hn => exact (scalar_int hn).written rfl
  | float x => exact (scalar_float x).written rfl
  | text s => exact (scalar_text s).written rfl
  | @list items _ ih =>
    by_cases hne : items = []
    · subst hne
      exact scalar_emptyList.written rfl
    · exact written_list hne fun v hv => ih v hv (depth + 1)
  | @mapping entries hdistinct _ ih =>
    by_cases hne : entries = []
    · subst hne
      exact scalar_emptyMapping.written rfl
    · exact written_mapping hne hdistinct fun e he => ih e he (depth + 1)

end Values

/-- A value is read back from its text, unless it holds a whole number of too many digits. -/
theorem read_render {v : Value} (h : Readable v) : read (render v) = .ok v := by
  have hwritten := h.written 0
  have hclosed : Closes [] := by simp [Closes]
  have hread := hwritten.read (show _ ≤ 3 * (write 0 v).toList.length + 3 by omega) hclosed
  have hmark : (write 0 v).toList.head? ≠ some '\ufeff' := by
    obtain ⟨c, tail, htext, -, -, -, hc⟩ := hwritten.opens
    simpa [htext] using hc
  rw [List.append_nil] at hread
  simp only [read, render, if_neg hmark, hwritten.opens.skipSpace, hread]
  rfl

end Json

end EntityStore
