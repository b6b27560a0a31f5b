import EntityStore.Proofs.Naming
import EntityStore.Proofs.NumberText

/-! # Messages of repeated keys

A database tells of a repeated key in a message. Two patterns are looked for in it, one before the
other, and of each the first place that matches counts. A server puts the repeated value into the
message, but behind the column of the key, and nothing in front of that column matches: so the column
is what is captured, whatever the value is.
-/
namespace EntityStore

open Database

/-! ## Captures -/

namespace Pattern

/-- The first place that matches, with what the groups took there. -/
def Compiled.found? (c : Compiled) (text : List Char) : Option Place :=
  (List.range (text.length + 1)).findSome? fun i =>
    matchExpr text.toArray c.expr c.flags ⟨i, []⟩ some

/-- What a group took of the text where the pattern matches first. -/
def Compiled.captured? (c : Compiled) (group : Nat) (text : List Char) : Option (List Char) := do
  let p ← c.found? text
  let (start, stop) ← p.span? group
  return (text.drop start).take (stop - start)

theorem search_eq_isSome_found? (c : Compiled) (text : String) :
    c.search text = (c.found? text.toList).isSome := by
  rw [Bool.eq_iff_iff]
  simp [Compiled.search, Compiled.found?, List.findSome?_isSome_iff]

/-- From every place of the text an expression matches exactly if a reading takes what is left there,
and then its first group holds what is read. -/
def Captures (text : List Char) (e : Expr) (read : List Char → Option (List Char)) : Prop :=
  ∀ i, match matchExpr text.toArray e {} ⟨i, []⟩ some with
    | none => read (text.drop i) = none
    | some p => ∃ start stop, p.span? 1 = some (start, stop) ∧
        read (text.drop i) = some ((text.drop start).take (stop - start))

/-- The characters of a text, one after the other, and an expression behind them. -/
def literal (marker : List Char) (e : Expr) : Expr :=
  marker.foldr (fun c e => .seq (.one c.toNat) e) e

/-- A run of one character or more, captured. -/
def capturedRun (letter : Expr) : Expr := .group 1 (.repeated 1 none .greedy letter)

variable {text : List Char} {e body : Expr} {read : List Char → Option (List Char)} {rest : Rest}

theorem match_literal (marker : List Char) (p : Place) :
    matchExpr text.toArray (literal marker e) {} p rest =
      if marker.isPrefixOf (text.drop p.position) then
        matchExpr text.toArray e {} { p with position := p.position + marker.length } rest
      else none := by
  induction marker generalizing p with
  | nil => simp [literal]
  | cons c marker ih =>
    have hstep : matchExpr text.toArray (literal (c :: marker) e) {} p rest =
        matchExpr text.toArray (.one c.toNat) {} p fun q =>
          matchExpr text.toArray (literal marker e) {} q rest := rfl
    rw [hstep, matchExpr_unit rfl]
    cases hc : text[p.position]? with
    | none =>
      rw [List.drop_eq_nil_of_le (List.getElem?_eq_none_iff.mp hc)]
      rfl
    | some d =>
      obtain ⟨hi, rfl⟩ := List.getElem?_eq_some_iff.mp hc
      rw [List.drop_eq_getElem_cons hi, List.isPrefixOf_cons_cons]
      simp only [matches_char, ih]
      by_cases hd : text[p.position] = c
      · simp [hd, Nat.add_assoc, Nat.add_comm 1]
      · simp [hd, Ne.symm hd]

/-- A run that is captured goes on to its end, where no shorter one leads on. -/
theorem match_capturedRun (hbody : body.isUnit = true) {accept : Char → Bool}
    (haccept : ∀ c, matchesUnit {} c body = accept c) {i : Nat} {run : List Char}
    (hrun : run = (text.drop i).takeWhile accept)
    (h : ∀ spans, rest ⟨i + run.length, spans⟩ = none →
      ∀ k < run.length, ∀ spans, rest ⟨i + k, spans⟩ = none) :
    matchExpr text.toArray (capturedRun body) {} ⟨i, []⟩ rest =
      if run = [] then none else rest ⟨i + run.length, [(1, i, i + run.length)]⟩ := by
  simp only [capturedRun, matchExpr, hbody, if_true, runLength_all, haccept, ← hrun]
  rw [fewerAndFewer_eq_longest fun hlong k hk => h _ hlong k hk _]
  cases run <;> simp

/-! ## First matches -/

theorem findSome?_bind {α β γ : Type} {f : α → Option β} {g : β → Option γ} {l : List α}
    (h : ∀ a b, f a = some b → (g b).isSome = true) :
    (l.findSome? f).bind g = l.findSome? fun a => (f a).bind g := by
  induction l with
  | nil => rfl
  | cons a l ih =>
    rw [List.findSome?_cons, List.findSome?_cons]
    cases hf : f a with
    | none => simpa using ih
    | some b =>
      obtain ⟨c, hc⟩ := Option.isSome_iff_exists.mp (h a b hf)
      simp [hc]

theorem afterMarker?_eq_findSome? {α : Type} {marker : List Char} (hm : marker ≠ [])
    (read : List Char → Option α) (text : List Char) :
    afterMarker? marker read text = (List.range (text.length + 1)).findSome? fun i =>
      if marker.isPrefixOf (text.drop i) then read (text.drop (i + marker.length)) else none := by
  induction text with
  | nil =>
    cases marker with
    | nil => exact absurd rfl hm
    | cons => rfl
  | cons c text ih =>
    rw [List.length_cons, List.range_succ_eq_map, List.findSome?_cons, List.findSome?_map,
      afterMarker?, ih]
    simp only [List.drop_zero, Nat.zero_add, Function.comp_def, List.drop_succ_cons,
      Nat.succ_add]
    split <;> rename_i h <;> rw [h]

/-- Where a marker with an expression behind it matches first, the group holds what is read behind the
first marker at which the reading takes something. -/
theorem captured?_literal {marker : List Char} (hm : marker ≠ []) (h : Captures text e read) :
    Compiled.captured? ⟨literal marker e, {}, 1⟩ 1 text = afterMarker? marker read text := by
  have hat : ∀ i, matchExpr text.toArray (literal marker e) {} ⟨i, []⟩ some =
      if marker.isPrefixOf (text.drop i) then
        matchExpr text.toArray e {} ⟨i + marker.length, []⟩ some else none :=
    fun i => match_literal marker ⟨i, []⟩
  rw [afterMarker?_eq_findSome? hm, Compiled.captured?, Compiled.found?, Option.bind_eq_bind,
    findSome?_bind]
  · congr 1
    funext i
    rw [hat]
    split
    · have hread := h (i + marker.length)
      cases he : matchExpr text.toArray e {} ⟨i + marker.length, []⟩ some with
      | none =>
        rw [he] at hread
        exact hread.symm
      | some p =>
        rw [he] at hread
        obtain ⟨start, stop, hspan, hread⟩ := hread
        rw [hread, Option.bind_some, hspan]
        rfl
    · rfl
  · intro i p hp
    rw [hat] at hp
    split at hp
    · have hread := h (i + marker.length)
      rw [hp] at hread
      obtain ⟨start, stop, hspan, -⟩ := hread
      rw [hspan]
      rfl
    · cases hp

/-! ## The two patterns -/

def keyPattern : String := "Key \\((?P<columns>[^)]+)\\)="
def pathPattern : String := "UNIQUE constraint failed: (?P<columns>[\\w.]+)"

def keyBody : Expr := .oneBut ')'.toNat
def keyEnd : Expr := literal [')'] (.one '='.toNat)
def pathLetter : Expr := .oneOf false [.ofClass .word false, .one '.'.toNat]

theorem compile_keyPattern : compile keyPattern =
    .ok ⟨literal "Key (".toList (.seq (capturedRun keyBody) keyEnd), {}, 1⟩ := by
  decide +kernel

theorem compile_pathPattern : compile pathPattern =
    .ok ⟨literal (uniqueMarker ++ ": ").toList (capturedRun pathLetter), {}, 1⟩ := by
  decide +kernel

theorem matches_keyBody (c : Char) : matchesUnit {} c keyBody = decide (c ≠ ')') := by
  have hnot : matchesUnit {} c keyBody = !matchesUnit {} c (.one ')'.toNat) := rfl
  rw [hnot, matches_char, decide_not]

theorem matches_pathLetter (c : Char) :
    matchesUnit {} c pathLetter = (isWordChar c || decide (c = '.')) := by
  have hpoint : matchesOne {} '.'.toNat c.toNat = decide (c = '.') := matches_char '.' c
  simp [pathLetter, matchesUnit, matchesSet, SetItem.holds, CharClass.holds, ← hpoint, matchesOne]

theorem match_keyEnd (p : Place) : matchExpr text.toArray keyEnd {} p some =
    match text.drop p.position with
    | ')' :: '=' :: _ => some { p with position := p.position + 2 }
    | _ => none := by
  rw [keyEnd, match_literal, matchExpr_unit rfl]
  simp only [List.length_singleton, ← List.head?_drop, ← List.drop_drop, matches_char]
  rcases text.drop p.position with _ | ⟨c, _ | ⟨d, rest⟩⟩
  · rfl
  · by_cases hc : c = ')' <;> simp [hc]
  · by_cases hc : c = ')'
    · by_cases hd : d = '='
      · simp [hc, hd]
      · simp [hc, hd]
    · simp [hc, Ne.symm hc]

theorem captures_key : Captures text (.seq (capturedRun keyBody) keyEnd) keyColumns? := by
  intro i
  obtain ⟨run, hrun⟩ : ∃ run, run = (text.drop i).takeWhile (· ≠ ')') := ⟨_, rfl⟩
  obtain ⟨left, hleft⟩ : ∃ left, left = (text.drop i).dropWhile (· ≠ ')') := ⟨_, rfl⟩
  have hcut : text.drop i = run ++ left := by rw [hrun, hleft, List.takeWhile_append_dropWhile]
  have hdrop : ∀ k, text.drop (i + k) = (run ++ left).drop k := fun k => by
    rw [← hcut, List.drop_drop]
  have hmatch : matchExpr text.toArray (.seq (capturedRun keyBody) keyEnd) {} ⟨i, []⟩ some =
      if run = [] then none
      else matchExpr text.toArray keyEnd {} ⟨i + run.length, [(1, i, i + run.length)]⟩ some := by
    change matchExpr text.toArray (capturedRun keyBody) {} ⟨i, []⟩
      (fun q => matchExpr text.toArray keyEnd {} q some) = _
    refine match_capturedRun rfl matches_keyBody hrun fun _ _ k hk spans => ?_
    have hne : run[k] ≠ ')' := by
      have hmem : run[k] ∈ (text.drop i).takeWhile (· ≠ ')') := hrun ▸ List.getElem_mem hk
      simpa using List.mem_takeWhile_imp hmem
    rw [match_keyEnd, hdrop, List.drop_append_of_le_length hk.le, List.drop_eq_getElem_cons hk]
    split
    · rename_i h
      exact absurd (List.cons.inj h).1 hne
    · rfl
  have htake : (text.drop i).take (i + run.length - i) = run := by
    rw [hcut, Nat.add_sub_cancel_left, List.take_left]
  rw [hmatch, keyColumns?, ← hrun, ← hleft, match_keyEnd, hdrop, List.drop_left]
  cases run with
  | nil => simp
  | cons c run =>
    rw [if_neg (List.cons_ne_nil _ _)]
    by_cases hends : ∃ back, left = ')' :: '=' :: back
    · obtain ⟨back, rfl⟩ := hends
      exact ⟨i, _, rfl, congrArg some htake.symm⟩
    · split
      · change (match left with | ')' :: '=' :: _ => some (c :: run) | _ => none) = none
        split
        · exact absurd ⟨_, rfl⟩ hends
        · rfl
      · rename_i p hp
        split at hp
        · exact absurd ⟨_, rfl⟩ hends
        · cases hp

theorem captures_path : Captures text (capturedRun pathLetter) pathColumns? := by
  intro i
  obtain ⟨run, hrun⟩ : ∃ run, run = (text.drop i).takeWhile fun c => isWordChar c || c = '.' :=
    ⟨_, rfl⟩
  have htake : (text.drop i).take (i + run.length - i) = run := by
    rw [Nat.add_sub_cancel_left, hrun]
    exact (List.prefix_iff_eq_take.mp (List.takeWhile_prefix _)).symm
  have hmatch : matchExpr text.toArray (capturedRun pathLetter) {} ⟨i, []⟩ some =
      if run = [] then none else some ⟨i + run.length, [(1, i, i + run.length)]⟩ :=
    match_capturedRun rfl matches_pathLetter hrun nofun
  rw [hmatch, pathColumns?, ← hrun]
  cases run with
  | nil => rfl
  | cons c run => exact ⟨i, _, rfl, congrArg some htake.symm⟩

end Pattern

/-! ## Messages of servers -/

/-- What a server says of a repeated key: the constraint, the column as it shows it, and the value. -/
def keyMessage (constraint column value : String) : String :=
  "duplicate key value violates unique constraint \"" ++ constraint ++ "\"\nDETAIL:  " ++ "Key (" ++
    column ++ ")=(" ++ value ++ ") already exists."

/-- A marker whose last character is nowhere else in it is found first where it stands behind a text
without that character. -/
theorem afterMarker?_first {α : Type} {marker front back : List Char} {c : Char} (hfront : c ∉ front)
    (hmarker : c ∉ marker) (read : List Char → Option α) :
    afterMarker? (marker ++ [c]) read (front ++ (marker ++ c :: back)) =
      afterMarker? (marker ++ [c]) read (marker ++ c :: back) := by
  induction front with
  | nil => rfl
  | cons d front ih =>
    have hnot : (marker ++ [c]).isPrefixOf (d :: (front ++ (marker ++ c :: back))) = false := by
      rw [Bool.eq_false_iff]
      intro hp
      have hinside : marker ++ [c] <+: d :: front ++ marker := by
        refine List.prefix_of_prefix_length_le (List.isPrefixOf_iff_prefix.mp hp)
          ⟨c :: back, by simp⟩ ?_
        simp only [List.length_append, List.length_cons, List.length_nil]
        omega
      have hc : c ∈ marker ++ [c] := List.mem_append_right _ (List.mem_singleton_self c)
      rcases List.mem_append.mp (hinside.subset hc) with hc | hc
      · exact hfront hc
      · exact hmarker hc
    rw [List.cons_append, afterMarker?, hnot, ih fun hc => hfront (List.mem_cons_of_mem _ hc)]
    rfl

theorem keyColumns?_closed {column back : List Char} (hcolumn : ')' ∉ column) (hne : column ≠ []) :
    keyColumns? (column ++ ')' :: '=' :: back) = some column := by
  have hall : ∀ c ∈ column, decide (c ≠ ')') = true := by
    rintro c hc
    exact decide_eq_true fun he => hcolumn (he ▸ hc)
  rw [keyColumns?, List.takeWhile_append_of_pos hall, List.dropWhile_append_of_pos hall]
  simp [hne]

/-- The column is read as it is shown, less the quotes around it, whatever the value. -/
theorem uniqueField?_keyMessage {constraint shown : String} (hconstraint : '(' ∉ constraint.toList)
    (hshown : ∀ c ∈ shown.toList, c ≠ ')' ∧ c ≠ ',' ∧ isBlank c = false) (hne : shown.toList ≠ [])
    (value : String) : uniqueField? (keyMessage constraint shown value) =
      some (String.ofList (trimBy (· = '"') shown.toList)) := by
  have hmarker : "Key (".toList = "Key ".toList ++ ['('] := rfl
  have hclose : ")=(".toList = ')' :: '=' :: ['('] := rfl
  have hl : (keyMessage constraint shown value).toList =
      ("duplicate key value violates unique constraint \"".toList ++ constraint.toList ++
        "\"\nDETAIL:  ".toList) ++ ("Key ".toList ++ '(' :: (shown.toList ++
          ')' :: '=' :: ('(' :: (value.toList ++ ") already exists.".toList)))) := by
    delta keyMessage
    simp only [String.toList_append, List.append_assoc]
    rw [hmarker, hclose]
    simp only [List.append_assoc, List.cons_append, List.nil_append]
  have hfront : '(' ∉ "duplicate key value violates unique constraint \"".toList ++
      constraint.toList ++ "\"\nDETAIL:  ".toList := by
    simp only [List.mem_append, not_or]
    exact ⟨⟨by decide, hconstraint⟩, by decide⟩
  have hfound : afterMarker? ("Key ".toList ++ ['(']) keyColumns?
      ("Key ".toList ++ '(' :: (shown.toList ++ ')' :: '=' :: ('(' :: (value.toList ++
        ") already exists.".toList)))) = some shown.toList := by
    rw [List.append_cons]
    exact afterMarker?_append (by decide) (keyColumns?_closed (fun hc => (hshown _ hc).1 rfl) hne)
  have hfirst : shown.toList.takeWhile (· ≠ ',') = shown.toList :=
    List.takeWhile_eq_self_iff.mpr fun c hc => decide_eq_true (hshown c hc).2.1
  have htrim : trimBy isBlank shown.toList = shown.toList := trim_eq fun c hc => (hshown c hc).2.2
  rw [uniqueField?, hl, hmarker, afterMarker?_first hfront (by decide), hfound]
  simp only [hfirst, htrim]

theorem trimBy_between {drop : Char → Bool} {q : Char} {cs : List Char} (hq : drop q = true)
    (h : ∀ c ∈ cs, drop c = false) : trimBy drop (q :: (cs ++ [q])) = cs := by
  cases cs with
  | nil => simp [trimBy, hq]
  | cons c rest =>
    have hc : ¬ drop c = true := Bool.eq_false_iff.mp (h c List.mem_cons_self)
    have hbare : trimBy drop (c :: rest) = c :: rest := trim_eq h
    rw [trimBy, List.dropWhile_cons_of_neg hc] at hbare
    rw [trimBy, List.dropWhile_cons_of_pos hq, List.cons_append, List.dropWhile_cons_of_neg hc,
      ← List.cons_append, List.reverse_append, List.reverse_singleton, List.singleton_append,
      List.dropWhile_cons_of_pos hq]
    exact hbare

theorem word_shown {column : String} (h : PlainWord column) :
    ∀ c ∈ column.toList, (c ≠ ')' ∧ c ≠ ',' ∧ isBlank c = false) ∧ decide (c = '"') = false := by
  intro c hc
  have hne : ∀ d, isIdentifierChar d = false → c ≠ d := fun d hd he =>
    not_mem_word h.isWord_eq_true hd (he ▸ hc)
  exact ⟨⟨hne _ (by decide), hne _ (by decide), isBlank_identifier (h.letters c hc)⟩,
    decide_eq_false (hne _ (by decide))⟩

/-- The column of a repeated key is told, whatever its value is, and by either pattern. -/
theorem repeated_field_told {constraint table column : String} (hconstraint : PlainWord constraint)
    (htable : PlainWord table) (hcolumn : PlainWord column) :
    (∃ p, Pattern.compile Pattern.keyPattern = .ok p ∧ ∀ message : String,
      p.captured? 1 message.toList = afterMarker? "Key (".toList keyColumns? message.toList) ∧
    (∃ p, Pattern.compile Pattern.pathPattern = .ok p ∧ ∀ message : String,
      p.captured? 1 message.toList =
        afterMarker? (uniqueMarker ++ ": ").toList pathColumns? message.toList) ∧
    uniqueField? (uniqueMarker ++ ": " ++ table ++ "." ++ column) = some column ∧
    ∀ value, uniqueField? (keyMessage constraint column value) = some column ∧
      uniqueField? (keyMessage constraint ("\"" ++ column ++ "\"") value) = some column := by
  have hparen : '(' ∉ constraint.toList := not_mem_word hconstraint.isWord_eq_true (by decide)
  have hshown := word_shown hcolumn
  refine ⟨⟨_, Pattern.compile_keyPattern, fun message => ?_⟩,
    ⟨_, Pattern.compile_pathPattern, fun message => ?_⟩,
    uniqueField?_message htable.isWord_eq_true hcolumn.isWord_eq_true, fun value => ⟨?_, ?_⟩⟩
  · exact Pattern.captured?_literal (by decide) Pattern.captures_key
  · exact Pattern.captured?_literal (by decide) Pattern.captures_path
  · rw [uniqueField?_keyMessage hparen (fun c hc => (hshown c hc).1) hcolumn.toList_ne_nil]
    rw [trimBy, trim_eq fun c hc => (hshown c hc).2, String.ofList_toList]
  · have hquoted : ("\"" ++ column ++ "\"").toList = '"' :: (column.toList ++ ['"']) := by simp
    rw [uniqueField?_keyMessage hparen, hquoted, trimBy_between (by decide) fun c hc => (hshown c hc).2,
      String.ofList_toList]
    · intro c hc
      simp only [hquoted, List.mem_cons, List.mem_append, List.not_mem_nil, or_false] at hc
      rcases hc with rfl | hc | rfl
      · decide
      · exact (hshown c hc).1
      · decide
    · simp [hquoted]

theorem repeated_isbn_told :
    (PlainWord "uq_books_isbn" ∧ PlainWord "books" ∧ PlainWord "isbn") ∧
    uniqueField? (keyMessage "uq_books_isbn" "\"isbn\""
      "1)=(2) Key (title)=(UNIQUE constraint failed: books.title") = some "isbn" := by
  have hwords : ∀ word ∈ ["uq_books_isbn", "books", "isbn"], PlainWord word := by
    simp only [plainWord_iff]
    decide
  have h := repeated_field_told (hwords "uq_books_isbn" (by simp)) (hwords "books" (by simp))
    (hwords "isbn" (by simp))
  exact ⟨⟨hwords _ (by simp), hwords _ (by simp), hwords _ (by simp)⟩, (h.2.2.2 _).2⟩

end EntityStore
