import EntityStore.Connection.Settings
import Mathlib.Data.List.Basic
import Mathlib.Data.List.TakeWhile

/-! # Parts of a connection URL

Where a URL is taken apart: at its scheme, at the end of its user and password, and at the question mark
that begins its query. What stands behind such a place leaves the parts before it as they are.
-/

namespace EntityStore

namespace DatabaseUrl

variable {cs q : List Char}

theorem eq_of_divided {c : Char} {l l' r r' : List Char} (hl : c ∉ l) (hl' : c ∉ l')
    (h : l ++ c :: r = l' ++ c :: r') : l = l' ∧ r = r' := by
  induction l generalizing l' with
  | nil =>
    cases l' with
    | nil => exact ⟨rfl, List.tail_eq_of_cons_eq h⟩
    | cons d l' => exact absurd (List.head_eq_of_cons_eq h ▸ List.mem_cons_self) hl'
  | cons d l ih =>
    cases l' with
    | nil => exact absurd (List.head_eq_of_cons_eq h ▸ List.mem_cons_self) hl
    | cons d' l' =>
      obtain ⟨rfl, htail⟩ := List.cons.inj h
      obtain ⟨rfl, hr⟩ := ih (fun hc => hl (List.mem_cons_of_mem _ hc))
        (fun hc => hl' (List.mem_cons_of_mem _ hc)) htail
      exact ⟨rfl, hr⟩

/-! ## Host, port and database in front of a query -/

theorem takeWhile_query {p : Char → Bool} (hp : p '?' = false) (cs q : List Char) :
    (cs ++ '?' :: q).takeWhile p = cs.takeWhile p := by
  induction cs with
  | nil => simp [hp]
  | cons c cs ih => by_cases hc : p c <;> simp [hc, ih]

theorem drop_takeWhile_append (p : Char → Bool) (cs q : List Char) :
    (cs ++ q).drop (cs.takeWhile p).length = cs.drop (cs.takeWhile p).length ++ q :=
  List.drop_append_of_le_length (List.takeWhile_prefix p).length_le

theorem take_lt_length {run cs : List Char} {n : ℕ} (hrun : run.length ≤ cs.length)
    (h : ¬ (run.take (run.length - n - 1)).isEmpty) :
    (run.take (run.length - n - 1)).length + 1 ≤ cs.length := by
  rw [List.isEmpty_iff, ← List.length_eq_zero_iff] at h
  rw [List.length_take] at h ⊢
  omega

theorem bracketedHost?_query (cs q : List Char) :
    bracketedHost? (cs ++ '?' :: q) =
      (bracketedHost? cs).map fun found => (found.1, found.2 ++ '?' :: q) := by
  cases cs with
  | nil => rfl
  | cons c inner =>
    by_cases hc : c = '['
    · subst hc
      rw [List.cons_append]
      simp only [bracketedHost?]
      rw [takeWhile_query (by decide)]
      split
      · rename_i hhost
        rw [List.drop_append_of_le_length (take_lt_length (List.takeWhile_prefix _).length_le hhost.2)]
        rfl
      · rfl
    · rw [List.cons_append, bracketedHost?, bracketedHost?]
      · rfl
      all_goals
        intro inner heq
        exact hc (List.head_eq_of_cons_eq heq)

theorem splitHost_query (cs q : List Char) :
    splitHost (cs ++ '?' :: q) = ((splitHost cs).1, (splitHost cs).2 ++ '?' :: q) := by
  rw [splitHost, splitHost, bracketedHost?_query]
  cases bracketedHost? cs with
  | some found => rfl
  | none =>
    simp only [Option.map_none]
    rw [takeWhile_query (by decide), drop_takeWhile_append]
    split <;> rfl

theorem splitPort_query (cs q : List Char) :
    splitPort (cs ++ '?' :: q) = ((splitPort cs).1, (splitPort cs).2 ++ '?' :: q) := by
  cases cs with
  | nil => rfl
  | cons c cs =>
    by_cases hc : c = ':'
    · subst hc
      rw [List.cons_append, splitPort, splitPort, takeWhile_query (by decide), drop_takeWhile_append]
    · rw [List.cons_append, splitPort, splitPort]
      · rfl
      all_goals
        intro rest heq
        exact hc (List.head_eq_of_cons_eq heq)

theorem splitDatabase_query (cs q : List Char) :
    splitDatabase (cs ++ '?' :: q) = ((splitDatabase cs).1, (splitDatabase cs).2 ++ '?' :: q) := by
  cases cs with
  | nil => rfl
  | cons c cs =>
    by_cases hc : c = '/'
    · subst hc
      rw [List.cons_append, splitDatabase, splitDatabase, takeWhile_query (by decide),
        drop_takeWhile_append]
    · rw [List.cons_append, splitDatabase, splitDatabase]
      · rfl
      all_goals
        intro rest heq
        exact hc (List.head_eq_of_cons_eq heq)

/-! ## User and password -/

/-- Characters that are in front of the first colon or slash. -/
def inRun (c : Char) : Bool := c ≠ ':' && c ≠ '/'

theorem splitBareUser_after (run after q : List Char) :
    splitBareUser run (after ++ q) =
      ((splitBareUser run after).1, (splitBareUser run after).2.1,
        (splitBareUser run after).2.2 ++ q) := by
  simp only [splitBareUser]
  split <;> simp [List.append_assoc]

/-- What follows the last `@` of a run can as well belong to what follows the run. -/
theorem splitBareUser_run {more : List Char} (h : '@' ∉ more) (run after : List Char) :
    splitBareUser (run ++ more) after = splitBareUser run (more ++ after) := by
  have hcontains : (run ++ more).contains '@' = run.contains '@' := by
    simp [h]
  have hhost : ((run ++ more).reverse.takeWhile (· ≠ '@')).reverse =
      (run.reverse.takeWhile (· ≠ '@')).reverse ++ more := by
    rw [List.reverse_append, List.takeWhile_append_of_pos, List.reverse_append, List.reverse_reverse]
    intro c hc
    exact decide_eq_true fun heq => h (heq ▸ List.mem_reverse.mp hc)
  simp only [splitBareUser, hcontains, hhost]
  split
  · have hlength : (run ++ more).length -
        ((run.reverse.takeWhile (· ≠ '@')).reverse ++ more).length - 1 =
        run.length - (run.reverse.takeWhile (· ≠ '@')).reverse.length - 1 := by
      simp only [List.length_append]
      omega
    rw [hlength, List.take_append_of_le_length (by omega), List.append_assoc]
  · rw [List.append_assoc]

theorem takeWhile_run {run after : List Char} (hrun : ∀ c ∈ run, inRun c = true)
    (hafter : ∀ c ∈ after.head?, inRun c = false) : (run ++ after).takeWhile inRun = run := by
  rw [List.takeWhile_append_of_pos hrun]
  cases after with
  | nil => simp
  | cons c after => simp [hafter c rfl]

theorem splitUser_secret {user secret rest : List Char} (huser : ∀ c ∈ user, inRun c = true)
    (hsecret : '@' ∉ secret) :
    splitUser (user ++ ':' :: (secret ++ '@' :: rest)) = (some user, some secret, rest) := by
  have hpass : ∀ c ∈ secret, decide (c ≠ '@') = true := by
    intro c hc
    exact decide_eq_true fun heq => hsecret (heq ▸ hc)
  have htake := @takeWhile_run user (':' :: (secret ++ '@' :: rest)) huser (by simp [inRun])
  change (user ++ ':' :: (secret ++ '@' :: rest)).takeWhile (fun c => c ≠ ':' && c ≠ '/') = user
    at htake
  simp only [splitUser, htake, List.drop_left]
  rw [List.dropWhile_append_of_pos hpass, List.takeWhile_append_of_pos hpass]
  simp

theorem splitUser_bare {run after : List Char} (hrun : ∀ c ∈ run, inRun c = true)
    (hafter : ∀ c ∈ after.head?, inRun c = false) (hsign : ∀ secret, after = ':' :: secret → '@' ∉ secret) :
    splitUser (run ++ after) = splitBareUser run after := by
  have htake := takeWhile_run hrun hafter
  change (run ++ after).takeWhile (fun c => c ≠ ':' && c ≠ '/') = run at htake
  simp only [splitUser, htake, List.drop_left]
  split
  · rename_i secret
    have hnone : secret.dropWhile (· ≠ '@') = [] := by
      rw [List.dropWhile_eq_nil_iff]
      intro c hc
      exact decide_eq_true fun heq => hsign secret rfl (heq ▸ hc)
    rw [hnone]
  · rfl

theorem exists_run (cs : List Char) : ∃ run after, cs = run ++ after ∧
    (∀ c ∈ run, inRun c = true) ∧ ∀ c ∈ after.head?, inRun c = false := by
  refine ⟨cs.takeWhile inRun, cs.dropWhile inRun, List.takeWhile_append_dropWhile.symm,
    fun c hc => List.mem_takeWhile_imp hc, ?_⟩
  intro c hc
  have hhead := List.head?_dropWhile_not inRun cs
  rw [Option.mem_def.mp hc] at hhead
  exact hhead

/-- Without a further `@`, what follows changes nothing about user and password. -/
theorem splitUser_append (hq : '@' ∉ q) (cs : List Char) :
    splitUser (cs ++ q) = ((splitUser cs).1, (splitUser cs).2.1, (splitUser cs).2.2 ++ q) := by
  obtain ⟨run, after, rfl, hrun, hafter⟩ := exists_run cs
  cases after with
  | nil =>
    obtain ⟨more, after, rfl, hmore, hafter'⟩ := exists_run q
    simp only [List.mem_append, not_or] at hq
    have hlong : ∀ c ∈ run ++ more, inRun c = true := by
      intro c hc
      exact (List.mem_append.mp hc).elim (hrun c) (hmore c)
    have hbare := splitUser_bare hrun hafter (by simp)
    rw [List.append_nil] at hbare ⊢
    rw [← List.append_assoc, splitUser_bare hlong hafter', splitBareUser_run hq.1, hbare,
      ← splitBareUser_after, List.nil_append]
    · rintro secret rfl hm
      exact hq.2 (List.mem_cons_of_mem _ hm)
  | cons c tail =>
    have hafter' : ∀ d ∈ (c :: tail ++ q).head?, inRun d = false := hafter
    rw [List.append_assoc]
    by_cases hsign : c = ':' ∧ '@' ∈ tail
    · obtain ⟨rfl, hmem⟩ := hsign
      obtain ⟨secret, rest, rfl, hsecret⟩ := List.eq_append_cons_of_mem hmem
      rw [splitUser_secret hrun hsecret, List.cons_append, List.append_assoc, List.cons_append,
        splitUser_secret hrun hsecret]
    · rw [splitUser_bare hrun hafter', splitUser_bare hrun hafter, splitBareUser_after]
      · rintro secret heq hm
        obtain ⟨rfl, rfl⟩ := List.cons.inj heq
        exact hsign ⟨rfl, hm⟩
      · rintro secret heq hm
        obtain ⟨rfl, rfl⟩ := List.cons.inj heq
        rcases List.mem_append.mp hm with hm | hm
        · exact hsign ⟨rfl, hm⟩
        · exact hq hm

/-! ## Scheme -/

variable {scheme rest base : List Char}

theorem colon_not_driver (h : ∀ c ∈ scheme, isDriverChar c = true) : ':' ∉ scheme := by
  intro hm
  exact absurd (h _ hm) (by decide)

theorem ofText_scheme (h : ∀ c ∈ scheme, isDriverChar c = true) (rest : List Char) :
    ofText (String.ofList (scheme ++ ':' :: '/' :: '/' :: rest)) =
      if scheme.isEmpty then .error .unreadable else ofParts scheme (splitUser rest) := by
  have htake : (scheme ++ ':' :: '/' :: '/' :: rest).takeWhile isDriverChar = scheme := by
    rw [List.takeWhile_append_of_pos h, List.takeWhile_cons_of_neg (by decide), List.append_nil]
  simp only [ofText, String.toList_ofList, htake, List.drop_left, afterScheme?]

/-- What is not read in front of a query. -/
def unread (cs : List Char) : List Char := (splitDatabase (splitPort (splitHost cs).2).2).2

theorem splitHost_suffix (cs : List Char) : (splitHost cs).2 <:+ cs := by
  rw [splitHost]
  cases cs with
  | nil => exact List.suffix_rfl
  | cons c inner =>
    by_cases hc : c = '['
    · subst hc
      simp only [bracketedHost?]
      split
      · rename_i hsome
        split at hsome
        · cases hsome
          exact (List.drop_suffix _ _).trans (List.suffix_cons _ _)
        · cases hsome
      · split
        · exact List.suffix_rfl
        · exact List.drop_suffix _ _
    · rw [bracketedHost?]
      · simp only
        split
        · exact List.suffix_rfl
        · exact List.drop_suffix _ _
      · intro inner heq
        exact hc (List.head_eq_of_cons_eq heq)

theorem splitPort_suffix (cs : List Char) : (splitPort cs).2 <:+ cs := by
  rw [splitPort.eq_def]
  split
  · exact (List.drop_suffix _ _).trans (List.suffix_cons _ _)
  · exact List.suffix_rfl

theorem splitDatabase_suffix (cs : List Char) : (splitDatabase cs).2 <:+ cs := by
  rw [splitDatabase.eq_def]
  split
  · exact (List.drop_suffix _ _).trans (List.suffix_cons _ _)
  · exact List.suffix_rfl

theorem unread_suffix (cs : List Char) : unread cs <:+ cs :=
  (splitDatabase_suffix _).trans ((splitPort_suffix _).trans (splitHost_suffix _))

theorem splitUser_suffix (cs : List Char) : (splitUser cs).2.2 <:+ cs := by
  obtain ⟨run, after, rfl, hrun, hafter⟩ := exists_run cs
  by_cases hsign : ∃ secret, after = ':' :: secret ∧ '@' ∈ secret
  · obtain ⟨secret, rfl, hmem⟩ := hsign
    obtain ⟨secret, rest, rfl, hsecret⟩ := List.eq_append_cons_of_mem hmem
    rw [splitUser_secret hrun hsecret]
    exact ⟨run ++ ':' :: (secret ++ ['@']), by simp⟩
  · rw [splitUser_bare hrun hafter fun secret heq hm => hsign ⟨secret, heq, hm⟩, splitBareUser]
    split
    · have hhost : (run.reverse.takeWhile (· ≠ '@')).reverse <:+ run := by
        rw [← List.reverse_prefix, List.reverse_reverse]
        exact List.takeWhile_prefix _
      obtain ⟨front, hfront⟩ := hhost
      exact ⟨front, by rw [← List.append_assoc, hfront]⟩
    · exact List.suffix_rfl

theorem ofParts_query (driver : List Char) (username password : Option (List Char))
    (cs q : List Char) : ofParts driver (username, password, cs ++ '?' :: q) =
      (ofParts driver (username, password, cs)).map fun u =>
        { u with query := readQuery (unread cs ++ '?' :: q) } := by
  simp only [ofParts, splitHost_query, splitPort_query, splitDatabase_query, unread]
  cases (splitPort (splitHost cs).2).1.mapM readPort <;> rfl

/-- A query is read in full, or passed over where something unreadable stands in front of it. -/
theorem readQuery_unread (hbase : '?' ∉ cs) (q : List Char) :
    readQuery (unread cs ++ '?' :: q) = if unread cs = [] then readQuery ('?' :: q) else [] := by
  cases hu : unread cs with
  | nil => rw [if_pos rfl, List.nil_append]
  | cons c tail =>
    have hc : c ≠ '?' := by
      rintro rfl
      exact hbase ((unread_suffix cs).subset (hu ▸ List.mem_cons_self))
    rw [if_neg (List.cons_ne_nil c tail), List.cons_append, readQuery]
    intro rest heq
    exact hc (List.head_eq_of_cons_eq heq)

/-- Whether the query behind a base is read. -/
def Clear (base : List Char) : Prop := unread (splitUser base).2.2 = []

instance : Decidable (Clear base) := inferInstanceAs (Decidable (_ = _))

theorem ofText_query (h : ∀ c ∈ scheme, isDriverChar c = true) (hbase : '?' ∉ base) (hq : '@' ∉ q) :
    ofText (String.ofList (scheme ++ ':' :: '/' :: '/' :: (base ++ '?' :: q))) =
      (ofText (String.ofList (scheme ++ ':' :: '/' :: '/' :: base))).map fun u =>
        { u with query := if Clear base then readQuery ('?' :: q) else [] } := by
  have hq' : '@' ∉ '?' :: q := by simp [hq]
  have hrest : '?' ∉ (splitUser base).2.2 := fun hm => hbase ((splitUser_suffix base).subset hm)
  rw [ofText_scheme h, ofText_scheme h]
  split
  · rfl
  · rw [splitUser_append hq', ofParts_query]
    simp only [readQuery_unread hrest]
    rfl

end DatabaseUrl

namespace Settings

open DatabaseUrl

variable {scheme : List Char}

/-- The scheme by which a URL is read. -/
def spelled (scheme : List Char) : List Char :=
  let named := if scheme = "postgres".toList then "postgresql".toList else scheme
  if named = "postgresql".toList then "postgresql+psycopg".toList else named

theorem respelled_scheme {old new : String} {letters letters' : List Char}
    (hold : old.toList = letters ++ [':', '/', '/']) (hnew : new.toList = letters' ++ [':', '/', '/'])
    (hletters : ':' ∉ letters) (hscheme : ':' ∉ scheme) (rest : List Char) :
    respelled old new (String.ofList (scheme ++ ':' :: '/' :: '/' :: rest)) =
      String.ofList ((if scheme = letters then letters' else scheme) ++ ':' :: '/' :: '/' :: rest) := by
  have hstart : (String.ofList (scheme ++ ':' :: '/' :: '/' :: rest)).startsWith old =
      decide (scheme = letters) := by
    rw [Bool.eq_iff_iff, String.startsWith_string_iff, String.toList_ofList, hold, decide_eq_true_iff]
    constructor
    · rintro ⟨tail, htail⟩
      rw [List.append_assoc, List.cons_append] at htail
      exact (eq_of_divided hletters hscheme htail).1.symm
    · rintro rfl
      exact ⟨rest, by simp⟩
  rw [respelled, hstart]
  by_cases hs : scheme = letters
  · have hdrop : (scheme ++ ':' :: '/' :: '/' :: rest).drop old.length = rest := by
      have hfront : scheme ++ ':' :: '/' :: '/' :: rest = (scheme ++ [':', '/', '/']) ++ rest := by simp
      rw [hfront, ← String.length_toList, hold, ← hs, List.drop_left]
    rw [if_pos (decide_eq_true hs), if_pos hs]
    apply String.toList_inj.mp
    simp only [String.toList_append, String.toList_ofList, hnew, hdrop, List.append_assoc,
      List.cons_append, List.nil_append]
  · rw [if_neg (by simp [hs]), if_neg hs]

theorem withDriver_scheme (h : ∀ c ∈ scheme, isDriverChar c = true) (rest : List Char) :
    withDriver (String.ofList (scheme ++ ':' :: '/' :: '/' :: rest)) =
      String.ofList (spelled scheme ++ ':' :: '/' :: '/' :: rest) := by
  have hcolon := colon_not_driver h
  have hnamed : ':' ∉ (if scheme = "postgres".toList then "postgresql".toList else scheme) := by
    split
    · decide
    · exact hcolon
  have hshort : "postgres://".toList = "postgres".toList ++ [':', '/', '/'] := by decide
  have hlong : "postgresql://".toList = "postgresql".toList ++ [':', '/', '/'] := by decide
  have hdriver : "postgresql+psycopg://".toList = "postgresql+psycopg".toList ++ [':', '/', '/'] := by
    decide
  rw [withDriver, respelled_scheme hshort hlong (by decide) hcolon,
    respelled_scheme hlong hdriver (by decide) hnamed]
  rfl

theorem spelled_driver (h : ∀ c ∈ scheme, isDriverChar c = true) :
    ∀ c ∈ spelled scheme, isDriverChar c = true := by
  rw [spelled]
  split
  · exact List.all_eq_true.mp (by decide)
  · split
    · exact List.all_eq_true.mp (by decide)
    · exact h

end Settings

end EntityStore
