import EntityStore.Proofs.PercentText
import EntityStore.Proofs.UrlParts

/-! # Parameters of a connection URL

A URL is taken apart and put together again with every parameter of its query, so two URLs that differ in the
value of one parameter are shown alike only if the values are the same.
-/

namespace EntityStore

namespace DatabaseUrl

/-! ## Queries with an open value -/

/-- A query in which a value is still open where there is none. -/
abbrev Template := List (String × List (Option String))

section Maps

variable {α β : Type} (f : α → β)

def onValues (entry : String × List α) : String × List β := (entry.1, entry.2.map f)

theorem addPair_map (query : List (String × List α)) (key : String) (a : α) :
    addPair (query.map (onValues f)) (key, f a) = (addPair query (key, a)).map (onValues f) := by
  have hany : (query.map (onValues f)).any (·.1 = key) = query.any (·.1 = key) := by
    rw [List.any_map]
    rfl
  simp only [addPair, hany]
  split
  · rw [List.map_map, List.map_map]
    refine List.map_congr_left ?_
    rintro ⟨k, vs⟩ -
    by_cases hk : k = key <;> simp [onValues, hk]
  · simp [onValues]

theorem foldl_addPair_map (pairs : List (String × α)) (query : List (String × List α)) :
    (pairs.map fun p => (p.1, f p.2)).foldl addPair (query.map (onValues f)) =
      (pairs.foldl addPair query).map (onValues f) := by
  induction pairs generalizing query with
  | nil => rfl
  | cons p rest ih =>
    rw [List.map_cons, List.foldl_cons, List.foldl_cons, addPair_map]
    exact ih _

/-- Whether a query has a value under a key. -/
def Has (query : List (String × List α)) (key : String) (a : α) : Prop :=
  ∃ vs, (key, vs) ∈ query ∧ a ∈ vs

variable {query : List (String × List α)} {key : String} {a : α}

theorem has_addPair (query : List (String × List α)) (key : String) (a : α) :
    Has (addPair query (key, a)) key a := by
  rw [addPair]
  split
  · rename_i hany
    obtain ⟨⟨k, vs⟩, hmem, hk⟩ := List.any_eq_true.mp hany
    obtain rfl := of_decide_eq_true hk
    exact ⟨vs ++ [a], List.mem_map.mpr ⟨(k, vs), hmem, if_pos rfl⟩, by simp⟩
  · exact ⟨[a], by simp, by simp⟩

theorem Has.addPair (h : Has query key a) (pair : String × α) :
    Has (addPair query pair) key a := by
  obtain ⟨vs, hmem, ha⟩ := h
  rw [DatabaseUrl.addPair]
  split
  · by_cases hk : key = pair.1
    · exact ⟨vs ++ [pair.2], List.mem_map.mpr ⟨(key, vs), hmem, if_pos hk⟩, by simp [ha]⟩
    · exact ⟨vs, List.mem_map.mpr ⟨(key, vs), hmem, if_neg hk⟩, ha⟩
  · exact ⟨vs, by simp [hmem], ha⟩

theorem Has.foldl (h : Has query key a) (pairs : List (String × α)) :
    Has (pairs.foldl DatabaseUrl.addPair query) key a := by
  induction pairs generalizing query with
  | nil => exact h
  | cons p rest ih => exact ih (h.addPair p)

/-- No pair of a query is lost. -/
theorem has_foldl {pairs : List (String × α)} (h : (key, a) ∈ pairs) :
    Has (pairs.foldl addPair []) key a := by
  obtain ⟨front, rest, rfl⟩ := List.append_of_mem h
  rw [List.foldl_append, List.foldl_cons]
  exact (has_addPair _ _ _).foldl rest

end Maps

namespace Template

def fill (t : Template) (w : String) : List (String × List String) := t.map (onValues (·.getD w))

/-- The pairs of a query in the order in which they are shown. -/
def shown (t : Template) : List (String × Option String) :=
  (t.mergeSort fun a b => decide (a.1 ≤ b.1)).flatMap fun (k, vs) => vs.map fun v => (k, v)

def item (k v : String) : String := encodeQuery k ++ "=" ++ encodeQuery v

variable {t : Template} {w w' key : String}

theorem mem_shown (h : Has t key none) : (key, none) ∈ t.shown := by
  obtain ⟨vs, hmem, hnone⟩ := h
  exact List.mem_flatMap.mpr ⟨_, List.mem_mergeSort.mpr hmem, List.mem_map.mpr ⟨none, hnone, rfl⟩⟩

theorem queryString_fill (t : Template) (w : String) :
    queryString (t.fill w) = "&".intercalate (t.shown.map fun p => item p.1 (p.2.getD w)) := by
  have hsort : (t.fill w).mergeSort (fun a b => decide (a.1 ≤ b.1)) =
      (t.mergeSort fun a b => decide (a.1 ≤ b.1)).map (onValues (·.getD w)) := by
    symm
    apply List.map_mergeSort
    intros
    rfl
  simp only [queryString, hsort, shown, List.flatMap_map, List.map_flatMap, onValues, List.map_map]
  rfl

theorem toList_item (k v : String) :
    (item k v).toList = (encodeQuery k).toList ++ '=' :: (encodeQuery v).toList := by
  rw [item, String.toList_append, String.toList_append, List.append_assoc]
  rfl

theorem not_mem_item (k v : String) : '&' ∉ (item k v).toList := by
  rw [toList_item, List.mem_append, List.mem_cons]
  rintro (h | h | h)
  · exact not_mem_encodeQuery k h
  · exact absurd h (by decide)
  · exact not_mem_encodeQuery v h

theorem item_inj {k v v' : String} : item k v = item k v' ↔ v = v' := by
  rw [item, item, String.append_right_inj, encodeQuery_inj]

/-- The first item ends at the first divider. -/
theorem intercalate_cons_inj {k v k' v' : String} {l l' : List String} (hl : l ≠ []) (hl' : l' ≠ [])
    (h : "&".intercalate (item k v :: l) = "&".intercalate (item k' v' :: l')) :
    item k v = item k' v' ∧ "&".intercalate l = "&".intercalate l' := by
  rw [String.intercalate_cons_of_ne_nil hl, String.intercalate_cons_of_ne_nil hl'] at h
  have hlist := congrArg String.toList h
  simp only [String.toList_append, List.append_assoc] at hlist
  obtain ⟨hitem, hrest⟩ := eq_of_divided (not_mem_item k v) (not_mem_item k' v') hlist
  exact ⟨String.toList_inj.mp hitem, String.toList_inj.mp hrest⟩

/-- Filled in two ways, a list of pairs with an open value is written in two ways. -/
theorem eq_of_intercalate {pairs : List (String × Option String)} (hopen : (key, none) ∈ pairs)
    (h : "&".intercalate (pairs.map fun p => item p.1 (p.2.getD w)) =
      "&".intercalate (pairs.map fun p => item p.1 (p.2.getD w'))) : w = w' := by
  induction pairs with
  | nil => cases hopen
  | cons p rest ih =>
    cases rest with
    | nil =>
      obtain rfl := List.mem_singleton.mp hopen
      exact item_inj.mp (by simpa using h)
    | cons q rest =>
      obtain ⟨hitem, hrest⟩ := intercalate_cons_inj (by simp) (by simp) h
      rcases List.mem_cons.mp hopen with rfl | hopen
      · exact item_inj.mp hitem
      · exact ih hopen hrest

theorem queryString_fill_inj (h : Has t key none) :
    queryString (t.fill w) = queryString (t.fill w') ↔ w = w' := by
  constructor
  · intro heq
    rw [queryString_fill, queryString_fill] at heq
    exact eq_of_intercalate (mem_shown h) heq
  · rintro rfl
    rfl

end Template

/-! ## Reading one parameter -/

section Splitting

variable {separator : Char}

theorem splitOnChar_cons (c : Char) (cs : List Char) : splitOnChar separator (c :: cs) =
    if c = separator then [] :: splitOnChar separator cs
    else match splitOnChar separator cs with
      | part :: rest => (c :: part) :: rest
      | [] => [[c]] := rfl

theorem splitOnChar_part {part : List Char} (h : separator ∉ part) :
    splitOnChar separator part = [part] := by
  induction part with
  | nil => rfl
  | cons c part ih =>
    have hc : c ≠ separator := fun heq => h (heq ▸ List.mem_cons_self)
    rw [splitOnChar_cons, if_neg hc, ih fun hm => h (List.mem_cons_of_mem _ hm)]

theorem splitOnChar_append (front rest : List Char) :
    splitOnChar separator (front ++ separator :: rest) =
      splitOnChar separator front ++ splitOnChar separator rest := by
  induction front with
  | nil =>
    rw [List.nil_append, splitOnChar_cons, if_pos rfl]
    rfl
  | cons c front ih =>
    rw [List.cons_append, splitOnChar_cons, splitOnChar_cons, ih]
    by_cases hc : c = separator
    · rw [if_pos hc, if_pos hc, List.cons_append]
    · rw [if_neg hc, if_neg hc]
      cases hs : splitOnChar separator front with
      | nil =>
        cases front with
        | nil => cases hs
        | cons d front =>
          rw [splitOnChar_cons] at hs
          split at hs
          · cases hs
          · split at hs <;> cases hs
      | cons part parts => simp

end Splitting

/-- What stands before and after one pair of a query. -/
structure Placed (before after : List Char) : Prop where
  front : before = [] ∨ ∃ front, before = front ++ ['&']
  back : after = [] ∨ ∃ back, after = '&' :: back

variable {before after : List Char}

theorem Placed.splitOnChar (h : Placed before after) : ∃ front back, ∀ pair, '&' ∉ pair →
    DatabaseUrl.splitOnChar '&' (before ++ (pair ++ after)) = front ++ pair :: back := by
  have hback : ∃ back, ∀ pair, '&' ∉ pair →
      DatabaseUrl.splitOnChar '&' (pair ++ after) = pair :: back := by
    rcases h.back with rfl | ⟨back, rfl⟩
    · refine ⟨[], fun pair hpair => ?_⟩
      rw [List.append_nil, splitOnChar_part hpair]
    · refine ⟨DatabaseUrl.splitOnChar '&' back, fun pair hpair => ?_⟩
      rw [splitOnChar_append, splitOnChar_part hpair, List.singleton_append]
  obtain ⟨back, hback⟩ := hback
  rcases h.front with rfl | ⟨front, rfl⟩
  · exact ⟨[], back, hback⟩
  · refine ⟨DatabaseUrl.splitOnChar '&' front, back, fun pair hpair => ?_⟩
    rw [List.append_assoc, List.singleton_append, splitOnChar_append, hback pair hpair]

theorem Placed.takeWhile (h : Placed before after) :
    Placed before (after.takeWhile (· ≠ '\n')) := by
  refine ⟨h.front, ?_⟩
  rcases h.back with rfl | ⟨back, rfl⟩
  · exact .inl rfl
  · exact .inr ⟨back.takeWhile (· ≠ '\n'), rfl⟩

theorem queryPair?_value {key value : List Char} (hkey : '=' ∉ key) (hvalue : value ≠ []) :
    queryPair? (key ++ '=' :: value) = some (queryText key, queryText value) := by
  have hrun : ∀ c ∈ key, (decide (c ≠ '=')) = true := by
    intro c hc
    exact decide_eq_true fun heq => hkey (heq ▸ hc)
  cases value with
  | nil => exact absurd rfl hvalue
  | cons c value =>
    rw [queryPair?, List.dropWhile_append_of_pos hrun, List.takeWhile_append_of_pos hrun]
    simp

/-- A query as a template for the value of one of its pairs. -/
theorem readQuery_value {key : List Char} (h : Placed before after) (hline : '\n' ∉ before)
    (hkey : ∀ c ∈ key, c ≠ '=' ∧ c ≠ '&' ∧ c ≠ '\n') :
    ∃ t : Template, Has t (queryText key) none ∧ ∀ value, value ≠ [] → '&' ∉ value → '\n' ∉ value →
      readQuery ('?' :: (before ++ (key ++ '=' :: value ++ after))) = t.fill (queryText value) := by
  obtain ⟨front, back, hsplit⟩ := h.takeWhile.splitOnChar
  let closed (parts : List (List Char)) : List (String × Option String) :=
    (parts.filterMap queryPair?).map fun p => (p.1, some p.2)
  let pairs := closed front ++ (queryText key, none) :: closed back
  refine ⟨pairs.foldl addPair [], has_foldl (by simp [pairs]), ?_⟩
  intro value hvalue hdivider hbreak
  have hpair : '&' ∉ key ++ '=' :: value := by
    simp only [List.mem_append, List.mem_cons, not_or]
    exact ⟨fun hm => (hkey _ hm).2.1 rfl, by decide, hdivider⟩
  have hrun : ∀ c ∈ before ++ (key ++ '=' :: value), (decide (c ≠ '\n')) = true := by
    intro c hc
    refine decide_eq_true ?_
    rintro rfl
    simp only [List.mem_append, List.mem_cons] at hc
    rcases hc with hc | hc | hc | hc
    · exact hline hc
    · exact (hkey _ hc).2.2 rfl
    · exact absurd hc (by decide)
    · exact hbreak hc
  have hpairs : (front ++ (key ++ '=' :: value) :: back).filterMap queryPair? =
      pairs.map fun p => (p.1, p.2.getD (queryText value)) := by
    rw [List.filterMap_append, List.filterMap_cons_some (queryPair?_value
      (fun hm => (hkey _ hm).1 rfl) hvalue)]
    simp [pairs, closed, Function.comp_def]
  have hfill := foldl_addPair_map (·.getD (queryText value)) pairs []
  rw [readQuery, ← List.append_assoc before, List.takeWhile_append_of_pos hrun, List.append_assoc,
    hsplit _ hpair, hpairs]
  exact hfill

end DatabaseUrl

end EntityStore
