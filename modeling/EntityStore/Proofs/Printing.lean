import EntityStore.Proofs.Spelling

/-! # Tables in print

The text in which a table is printed is read back column by column, defaults included.
-/
namespace EntityStore

open Sql

/-! ## Columns -/

namespace Sql

/-- A column as its definition tells it. -/
structure ColumnText where
  name : List Char
  type : List Lexeme
  default : Option (List Lexeme)
  required : Bool
  deriving DecidableEq, Repr

def notNull : List Lexeme := [keyword "NOT", keyword "NULL"]

/-- The name comes first, then the type, the default behind a word of its own, and at the end whether
the column must not be null. -/
def readColumn : List Lexeme → Option ColumnText
  | [] => none
  | l :: ls =>
    let required : Bool := ls.drop (ls.length - 2) = notNull
    let body := if required then ls.take (ls.length - 2) else ls
    l.named?.map fun name =>
      ⟨name, body.takeWhile (· ≠ keyword "DEFAULT"), (body.dropWhile (· ≠ keyword "DEFAULT")).tail?,
        required⟩

/-- The definitions in the first statement of a text: those in its first parentheses. -/
def definitions? (text : String) : Option (List (List Lexeme)) :=
  (statement? text.toList).map fun ls => items 0 (ls.dropWhile (· ≠ .mark '(')).tail

/-- The column in one place of the first statement. -/
def columnAt? (text : String) (i : ℕ) : Option ColumnText :=
  (definitions? text).bind fun definitions => definitions[i]?.bind readColumn

end Sql

section Columns

variable {dialect : Dialect} {c : Column}

def Column.constraint (c : Column) : List Lexeme := if c.nullable then [] else notNull

theorem take_drop_two (body tail : List Lexeme) (h : tail.length = 2) :
    (body ++ tail).take ((body ++ tail).length - 2) = body ∧
      (body ++ tail).drop ((body ++ tail).length - 2) = tail := by
  have hlength : (body ++ tail).length - 2 = body.length := by
    rw [List.length_append, h]
    rfl
  rw [hlength]
  exact ⟨List.take_left, List.drop_left⟩

theorem readColumn_text {l : Lexeme} {n t : List Char} {ts : List Lexeme} (hl : l.named? = some n)
    (hts : keyword "DEFAULT" ∉ ts) :
    readColumn (l :: (ts ++ [keyword "DEFAULT", .text t] ++ c.constraint)) =
      some ⟨n, ts, some [.text t], !c.nullable⟩ := by
  have hall : ∀ x ∈ ts, decide (x ≠ keyword "DEFAULT") = true := by
    intro x hx
    rw [decide_eq_true_eq]
    rintro rfl
    exact hts hx
  have htype : (ts ++ [keyword "DEFAULT", .text t]).takeWhile (· ≠ keyword "DEFAULT") = ts := by
    rw [List.takeWhile_append_of_pos hall]
    simp
  have hargument : ((ts ++ [keyword "DEFAULT", .text t]).dropWhile (· ≠ keyword "DEFAULT")).tail? =
      some [.text t] := by
    rw [List.dropWhile_append_of_pos hall]
    simp
  rw [readColumn, hl, Option.map_some, Column.constraint]
  cases c.nullable
  · obtain ⟨htake, hdrop⟩ := take_drop_two (ts ++ [keyword "DEFAULT", .text t]) notNull rfl
    simp only [Bool.false_eq_true, if_false, hdrop, htake, decide_true, if_true, htype, hargument,
      Bool.not_false]
  · have hdiffer : [keyword "DEFAULT", .text t] ≠ notNull := by
      intro h
      cases (List.cons.inj (List.cons.inj h).2).1
    obtain ⟨-, hdrop⟩ := take_drop_two ts [keyword "DEFAULT", .text t] rfl
    simp only [if_true, List.append_nil, hdrop, hdiffer, decide_false, Bool.false_eq_true, if_false,
      htype, hargument, Bool.not_true]

/-- The text of a column up to its default. -/
theorem spelled_head {l : Lexeme} (hn : spelled (dialect.nameText c.name).toList = some [l]) :
    spelled (dialect.nameText c.name ++ " " ++ c.type.sql dialect).toList =
      some (l :: c.type.lexemes dialect) := by
  have htext : (dialect.nameText c.name ++ " " ++ c.type.sql dialect).toList =
      (dialect.nameText c.name).toList ++ ' ' :: (c.type.sql dialect).toList := by simp
  rw [htext]
  exact spelled_blank hn (spelled_type c.type)

theorem spelled_constraint {head : String} {ls : List Lexeme} (h : spelled head.toList = some ls) :
    spelled (head ++ (if c.nullable then "" else " NOT NULL")).toList = some (ls ++ c.constraint) := by
  rw [Column.constraint]
  split
  · simp [h]
  · have hwords : spelled "NOT NULL".toList = some notNull := by decide
    have htext : (head ++ " NOT NULL").toList = head.toList ++ ' ' :: "NOT NULL".toList := by simp
    rw [htext]
    exact spelled_blank h hwords

/-- A column whose default has no null character can be read. -/
theorem spelled_column (hn : ∀ x ∈ c.name.toList, isNameChar x = true)
    (hd : ∀ d, c.default = some d → ¬ d.HasNull) :
    ∃ ls, spelled (c.sql dialect).toList = some ls ∧ Whole ls ∧
      ∀ s, c.default = some (.literal (.text s)) → readColumn ls =
        some ⟨(dialect.denoted c.name).toList, c.type.lexemes dialect,
          some [.text (dialect.shown s.toList)], !c.nullable⟩ := by
  obtain ⟨l, hl, hnamed⟩ := spelled_nameText dialect hn
  have hhead := spelled_head (c := c) hl
  have hfront : Whole (l :: c.type.lexemes dialect) := by
    have hinner : Whole [l] := whole_inner (by simp [isInner_of_named hnamed])
    exact hinner.append (whole_type c.type)
  have hconstraint : Whole c.constraint := by
    refine whole_inner ?_
    rw [Column.constraint]
    split <;> rfl
  cases hdefault : c.default with
  | none =>
    refine ⟨l :: c.type.lexemes dialect ++ c.constraint, ?_, hfront.append hconstraint, nofun⟩
    rw [Column.sql, hdefault, String.append_empty]
    exact spelled_constraint hhead
  | some d =>
    obtain ⟨ls, hls, hwhole, htext⟩ := @spelled_default dialect d (hd d hdefault)
    have hword : spelled "DEFAULT".toList = some [keyword "DEFAULT"] := by decide
    have hsplit : (dialect.nameText c.name ++ " " ++ c.type.sql dialect ++
        (" DEFAULT " ++ d.sql dialect)).toList =
        (dialect.nameText c.name ++ " " ++ c.type.sql dialect).toList ++
          ' ' :: ("DEFAULT".toList ++ ' ' :: (d.sql dialect).toList) := by simp
    have hbody := spelled_blank hhead (spelled_blank hword hls)
    rw [← hsplit] at hbody
    have hargument : Whole ([keyword "DEFAULT"] ++ ls) := (whole_inner rfl).append hwhole
    refine ⟨l :: c.type.lexemes dialect ++ ([keyword "DEFAULT"] ++ ls) ++ c.constraint, ?_,
      (hfront.append hargument).append hconstraint, ?_⟩
    · rw [Column.sql, hdefault]
      exact spelled_constraint hbody
    · intro s hs
      rw [htext s (Option.some.inj hs)]
      exact readColumn_text hnamed (type_lacks_default c.type)

theorem column_broken (hn : ∀ x ∈ c.name.toList, isNameChar x = true) {d : ColumnDefault}
    (hdefault : c.default = some d) (hd : d.HasNull) : run .between (c.sql dialect).toList = none := by
  obtain ⟨l, hl, -⟩ := spelled_nameText dialect hn
  have hword : spelled "DEFAULT".toList = some [keyword "DEFAULT"] := by decide
  have hhead := spelled_blank (spelled_head (c := c) hl) hword
  have hsplit : (c.sql dialect).toList =
      ((dialect.nameText c.name ++ " " ++ c.type.sql dialect).toList ++ ' ' :: "DEFAULT".toList) ++
        ' ' :: ((d.sql dialect).toList ++ (if c.nullable then "" else " NOT NULL").toList) := by
    simp [Column.sql, hdefault]
  rw [hsplit, run_spelled hhead (by decide) (by decide : fresh ' ' = some ([], .between)),
    run_broken (default_broken hd)]
  rfl

end Columns

/-! ## Tables -/

section Parts

variable {parts : List (List Char)} {lists : List (List Lexeme)}

def partSeparator : List Char := [',', ' ', '\n', '\t']

theorem run_separator (cs : List Char) :
    run .between (' ' :: '\n' :: '\t' :: cs) = run .between cs := by
  rw [run_blank (.inl rfl), run_blank (.inr (.inl rfl)), run_blank (.inr (.inr rfl))]

/-- Parts that can be read are read as the items of a list. -/
theorem spelled_parts (h : List.Forall₂ (fun p ls => spelled p = some ls) parts lists) :
    spelled (partSeparator.intercalate parts) = some (List.intercalate [.mark ','] lists) := by
  induction h with
  | nil => rfl
  | @cons p ls parts lists hp hrest ih =>
    cases hrest with
    | nil => simpa [List.intercalate] using hp
    | cons hq hrest =>
      have hblanks := ih
      rw [spelled, ← run_separator, ← spelled] at hblanks
      rw [List.intercalate_cons_cons, List.intercalate_cons_cons, partSeparator, List.append_assoc]
      exact spelled_join hp (by decide) (by decide : fresh ',' = some ([.mark ','], .between)) hblanks

/-- One part that cannot be read is enough. -/
theorem parts_broken (hall : ∀ p ∈ parts, (∃ ls, spelled p = some ls) ∨ run .between p = none)
    (hone : ∃ p ∈ parts, run .between p = none) :
    run .between (partSeparator.intercalate parts) = none := by
  induction parts with
  | nil => simp at hone
  | cons p parts ih =>
    have hp := hall p (by simp)
    cases parts with
    | nil =>
      obtain ⟨q, hq, hbroken⟩ := hone
      rw [List.mem_singleton.mp hq] at hbroken
      simpa [List.intercalate] using hbroken
    | cons q parts =>
      rw [List.intercalate_cons_cons]
      rcases hp with ⟨ls, hls⟩ | hp
      · by_cases hrest : ∃ x ∈ q :: parts, run .between x = none
        · have htail := ih (fun x hx => hall x (List.mem_cons_of_mem _ hx)) hrest
          rw [List.append_assoc, partSeparator, List.cons_append,
            run_spelled hls (by decide) (by decide : fresh ',' = some ([.mark ','], .between)),
            List.cons_append, List.cons_append, List.cons_append, List.nil_append, run_separator]
          rw [← partSeparator, htail]
          rfl
        · obtain ⟨x, hx, hbroken⟩ := hone
          rcases List.mem_cons.mp hx with rfl | hx
          · rw [List.append_assoc]
            exact run_broken hbroken
          · exact absurd ⟨x, hx, hbroken⟩ hrest
      · rw [List.append_assoc]
        exact run_broken hp

end Parts

namespace TableSchema

variable {dialect : Dialect} {t : TableSchema}

/-- The definitions of a table, as they stand in its statement. -/
def parts (dialect : Dialect) (t : TableSchema) : List String :=
  t.columns.map (·.sql dialect) ++ ["PRIMARY KEY (id)"] ++
    t.uniqueKeys.map (Statement.keyText dialect)

/-- The statement that makes a table, without the blanks around it. -/
def createText (dialect : Dialect) (t : TableSchema) : List Char :=
  "CREATE TABLE IF NOT EXISTS".toList ++ ' ' :: ((dialect.nameText t.name).toList ++ ' ' :: '(' ::
    '\n' :: '\t' :: (partSeparator.intercalate ((t.parts dialect).map String.toList) ++ ['\n', ')']))

theorem trimBlanks_eq {cs : List Char} {c d : Char} (hc : isBlank c = false) (hd : isBlank d = false) :
    trimBlanks ('\n' :: (c :: cs ++ [d] ++ ['\n', '\n'])) = c :: cs ++ [d] := by
  have hbreak : isBlank '\n' = true := by decide
  simp [trimBlanks, trimEnd, hbreak, hc, hd]

theorem trimmed_createTable : trimBlanks ((Statement.createTable t).sql dialect).toList =
    t.createText dialect := by
  have hopen : "\nCREATE TABLE IF NOT EXISTS ".toList =
      '\n' :: ("CREATE TABLE IF NOT EXISTS".toList ++ [' ']) := by rfl
  have hseparator : ", \n\t".toList = partSeparator := by rfl
  have hlist : " (\n\t".toList = [' ', '(', '\n', '\t'] := by rfl
  have hclose : "\n)\n\n".toList = ['\n', ')', '\n', '\n'] := by rfl
  have htext : ((Statement.createTable t).sql dialect).toList =
      '\n' :: (t.createText dialect ++ ['\n', '\n']) := by
    unfold Statement.sql Statement.createTableText createText parts
    simp only [String.toList_append, String.toList_intercalate, hopen, hseparator, hlist, hclose,
      List.cons_append, List.append_assoc, List.nil_append]
  have hends : ∃ cs, t.createText dialect = 'C' :: cs ++ [')'] := by
    have hfirst : "CREATE TABLE IF NOT EXISTS".toList = 'C' :: "REATE TABLE IF NOT EXISTS".toList := by
      rfl
    refine ⟨"REATE TABLE IF NOT EXISTS".toList ++ ' ' :: ((dialect.nameText t.name).toList ++
      ' ' :: '(' :: '\n' :: '\t' ::
        (partSeparator.intercalate ((t.parts dialect).map String.toList) ++ ['\n'])), ?_⟩
    unfold createText
    simp only [hfirst, List.cons_append, List.append_assoc, List.nil_append]
  obtain ⟨cs, hcs⟩ := hends
  rw [htext, hcs]
  exact trimBlanks_eq (by decide) (by decide)

/-- The first statement is the one that makes the table. -/
theorem toList_render : ∃ rest, (t.render dialect).toList = t.createText dialect ++ ';' :: rest := by
  obtain ⟨s, rest, hs⟩ : ∃ s rest, t.statements dialect = .createTable t :: s :: rest := by
    unfold statements
    cases t.indexes.map (Statement.createIndex t.name) <;> cases dialect <;>
      exact ⟨_, _, rfl⟩
  have hseparator : ";\n\n".toList = [';', '\n', '\n'] := rfl
  rw [render, hs, String.toList_append, String.toList_intercalate, List.map_cons, List.map_cons,
    List.map_cons, List.map_cons, List.intercalate_cons_cons, String.toList_ofList,
    trimmed_createTable, hseparator, List.append_assoc, List.append_assoc]
  exact ⟨_, rfl⟩

/-- The statement up to the list of definitions. -/
theorem spelled_opening (hname : ∀ c ∈ t.name.toList, isNameChar c = true) :
    ∃ l, l.named? ≠ none ∧ spelled ("CREATE TABLE IF NOT EXISTS".toList ++ ' ' ::
      ((dialect.nameText t.name).toList ++ [' '])) =
        some (["CREATE", "TABLE", "IF", "NOT", "EXISTS"].map keyword ++ [l]) := by
  obtain ⟨l, hl, hnamed⟩ := spelled_nameText dialect hname
  have hwords : spelled "CREATE TABLE IF NOT EXISTS".toList =
      some (["CREATE", "TABLE", "IF", "NOT", "EXISTS"].map keyword) := by decide
  refine ⟨l, by simp [hnamed], ?_⟩
  exact spelled_blank hwords (spelled_blank hl spelled_nil)

theorem createText_split : t.createText dialect = ("CREATE TABLE IF NOT EXISTS".toList ++ ' ' ::
    ((dialect.nameText t.name).toList ++ [' '])) ++ '(' :: '\n' :: '\t' ::
      (partSeparator.intercalate ((t.parts dialect).map String.toList) ++ ['\n', ')']) := by
  unfold createText
  simp only [List.append_assoc, List.cons_append, List.nil_append]

/-- The whole statement is read if every definition in it is. -/
theorem definitions?_render {lists : List (List Lexeme)} (hne : lists ≠ [])
    (hname : ∀ c ∈ t.name.toList, isNameChar c = true)
    (hparts : List.Forall₂ (fun p ls => spelled p = some ls ∧ Whole ls)
      ((t.parts dialect).map String.toList) lists) :
    definitions? (t.render dialect) = some lists := by
  obtain ⟨rest, hrest⟩ := @toList_render dialect t
  obtain ⟨l, hnamed, hopening⟩ := @spelled_opening dialect t hname
  have hlist := spelled_parts (hparts.imp fun _ _ h => h.1)
  have hclosed := spelled_join hlist (by decide) (by decide : fresh '\n' = some ([], .between))
    (spelled_close spelled_nil)
  rw [← spelled_after_blank (.inr (.inr rfl)), ← spelled_after_blank (.inr (.inl rfl))] at hclosed
  have hstatement := spelled_open hopening hclosed
  rw [List.append_nil, List.nil_append, ← createText_split] at hstatement
  have hwhole : ∀ w ∈ lists, Whole w := by
    clear hlist hclosed hstatement hne
    generalize (t.parts dialect).map String.toList = parts at hparts
    induction hparts with
    | nil => simp
    | cons h _ ih => exact List.forall_mem_cons.mpr ⟨h.2, ih⟩
  have hbefore : ∀ x ∈ ["CREATE", "TABLE", "IF", "NOT", "EXISTS"].map keyword ++ [l],
      decide (x ≠ .mark '(') = true := by
    intro x hx
    rw [decide_eq_true_eq]
    rintro rfl
    rcases List.mem_append.mp hx with hx | hx
    · exact absurd hx (by decide)
    · rw [← List.mem_singleton.mp hx] at hnamed
      exact hnamed rfl
  rw [definitions?, hrest, statement?_spelled hstatement, Option.map_some,
    List.dropWhile_append_of_pos hbefore]
  exact congrArg some (items_intercalate hne hwhole)

/-- One definition that cannot be read is enough to leave the statement unread. -/
theorem definitions?_broken (hname : ∀ c ∈ t.name.toList, isNameChar c = true)
    (hall : ∀ p ∈ t.parts dialect, (∃ ls, spelled p.toList = some ls) ∨ run .between p.toList = none)
    (hone : ∃ p ∈ t.parts dialect, run .between p.toList = none) :
    definitions? (t.render dialect) = none := by
  obtain ⟨rest, hrest⟩ := @toList_render dialect t
  obtain ⟨l, -, hopening⟩ := @spelled_opening dialect t hname
  have hlist : run .between (partSeparator.intercalate ((t.parts dialect).map String.toList)) = none := by
    refine parts_broken (by simpa using hall) ?_
    obtain ⟨p, hp, hbroken⟩ := hone
    exact ⟨p.toList, List.mem_map_of_mem hp, hbroken⟩
  have htext : run .between (t.createText dialect) = none := by
    rw [createText_split,
      run_spelled hopening (by decide) (by decide : fresh '(' = some ([.mark '('], .between)),
      run_blank (.inr (.inl rfl)), run_blank (.inr (.inr rfl)), run_broken hlist]
    rfl
  rw [definitions?, hrest, statement?_broken htext]
  rfl

/-- The keys of a table can be read. -/
theorem spelled_key {key : ColumnKey} (hkey : ∀ c ∈ key.name.toList, isNameChar c = true)
    (hcolumn : ∀ c ∈ key.column.toList, isNameChar c = true) :
    ∃ ls, spelled (Statement.keyText dialect key).toList = some ls ∧ Whole ls := by
  obtain ⟨l, hl, hnamed⟩ := spelled_nameText dialect hkey
  obtain ⟨l', hl', hnamed'⟩ := spelled_nameText dialect hcolumn
  have hwords : spelled "CONSTRAINT".toList = some [keyword "CONSTRAINT"] ∧
      spelled "UNIQUE ".toList = some [keyword "UNIQUE"] := by decide
  have htext : (Statement.keyText dialect key).toList = "CONSTRAINT".toList ++ ' ' ::
      ((dialect.nameText key.name).toList ++ ' ' ::
        ("UNIQUE ".toList ++ '(' :: ((dialect.nameText key.column).toList ++ [')']))) := by
    unfold Statement.keyText
    simp
  rw [htext]
  refine ⟨_, spelled_blank hwords.1 (spelled_blank hl (spelled_group hwords.2 hl')), ?_⟩
  have hname : Whole [l] := whole_inner (by simp [isInner_of_named hnamed])
  have hfront : Whole ([keyword "CONSTRAINT"] ++ ([l] ++ [keyword "UNIQUE"])) :=
    (whole_inner rfl).append (hname.append (whole_inner rfl))
  refine hfront.append (whole_group ?_)
  intro x hx
  rw [List.mem_singleton.mp hx]
  constructor <;> rintro rfl <;> cases hnamed'

end TableSchema

/-! ## Descriptors -/

namespace Descriptor

variable {d : Descriptor} {dialect : Dialect} {f : Field} {s : String} {i : ℕ}

/-- No default of the entity holds the null character, which no statement can hold. -/
def Writable (d : Descriptor) : Prop :=
  ∀ f ∈ d.fields, ∀ s, f.storage.default = some (.text s) → '\x00' ∉ s.toList

theorem column_name (hd : d.Accepted) {c : Column}
    (hc : c ∈ (TableSchema.ofDescriptor d).columns) : ∀ x ∈ c.name.toList, isNameChar x = true := by
  have himplicit : ∀ c ∈ TableSchema.implicit, c.name.toList.all isNameChar = true := by decide
  rcases List.mem_append.mp hc with hc | hc
  · exact List.all_eq_true.mp (himplicit c hc)
  · obtain ⟨f, hf, rfl⟩ := List.mem_map.mp hc
    exact isNameChar_of_identifier (hd.sound hf).name.1

theorem column_hasNull {c : Column} (hc : c ∈ (TableSchema.ofDescriptor d).columns)
    {x : ColumnDefault} (hx : c.default = some x) (hnull : x.HasNull) :
    ∃ f ∈ d.fields, c = f.column ∧ ∃ s, f.storage.default = some (.text s) ∧ '\x00' ∈ s.toList := by
  obtain ⟨s, rfl, hs⟩ := hnull
  rcases List.mem_append.mp hc with hc | hc
  · have himplicit : ∀ c ∈ TableSchema.implicit, c.default = none ∨ c.default = some .now := by decide
    rcases himplicit c hc with h | h <;> rw [h] at hx <;> cases hx
  · obtain ⟨f, hf, rfl⟩ := List.mem_map.mp hc
    obtain ⟨y, hy, heq⟩ := Option.map_eq_some_iff.mp hx
    cases heq
    exact ⟨f, hf, rfl, s, hy, hs⟩

/-- Every definition of the table that is no column with a null character can be read. -/
theorem part_spelled (hd : d.Accepted) {p : String}
    (hp : p ∈ (TableSchema.ofDescriptor d).parts dialect) :
    (∃ ls, spelled p.toList = some ls ∧ Whole ls) ∨
      (¬ d.Writable ∧ run .between p.toList = none) := by
  simp only [TableSchema.parts, List.mem_append, List.mem_map, List.mem_singleton] at hp
  rcases hp with (⟨c, hc, rfl⟩ | rfl) | ⟨key, hkey, rfl⟩
  · by_cases hnull : ∃ x, c.default = some x ∧ x.HasNull
    · obtain ⟨x, hx, hnull⟩ := hnull
      refine .inr ⟨?_, column_broken (column_name hd hc) hx hnull⟩
      obtain ⟨f, hf, -, s, hs, hm⟩ := column_hasNull hc hx hnull
      exact fun h => h f hf s hs hm
    · obtain ⟨ls, hls, hw, -⟩ := @spelled_column dialect c (column_name hd hc)
        fun x hx hn => hnull ⟨x, hx, hn⟩
      exact .inl ⟨ls, hls, hw⟩
  · have hkey : spelled "PRIMARY KEY (id)".toList = some ([keyword "PRIMARY", keyword "KEY"] ++
        .mark '(' :: ([keyword "id"] ++ [.mark ')'])) := by decide
    exact .inl ⟨_, hkey, (whole_inner rfl).append (whole_group (by decide))⟩
  · obtain ⟨f, hf, rfl⟩ := List.mem_map.mp hkey
    have hfield := isNameChar_of_identifier (hd.sound (List.mem_of_mem_filter hf)).name.1
    exact .inl (TableSchema.spelled_key
      (isNameChar_constraintName (isNameChar_of_identifier hd.name.1) hfield) hfield)

/-- The place of a field among the definitions of its table. -/
theorem part_of_field (hf : d.fields[i]? = some f) :
    ((TableSchema.ofDescriptor d).parts dialect)[TableSchema.implicit.length + i]? =
      some (f.column.sql dialect) := by
  have hcolumn : (TableSchema.ofDescriptor d).columns[TableSchema.implicit.length + i]? =
      some f.column := by
    simp only [TableSchema.ofDescriptor]
    rw [List.getElem?_append_right (by omega), Nat.add_sub_cancel_left, List.getElem?_map, hf]
    rfl
  have hbound : TableSchema.implicit.length + i < (TableSchema.ofDescriptor d).columns.length := by
    by_contra hn
    rw [List.getElem?_eq_none (by omega)] at hcolumn
    cases hcolumn
  rw [TableSchema.parts, List.append_assoc, List.getElem?_append_left (by simpa using hbound),
    List.getElem?_map, hcolumn]
  rfl

/-- A column with a text for its default is read back as it was made, but for the text itself. -/
theorem column_printed (hd : d.Accepted) (hw : d.Writable) (hf : d.fields[i]? = some f)
    (hs : f.storage.default = some (.text s)) :
    columnAt? ((TableSchema.ofDescriptor d).render dialect) (TableSchema.implicit.length + i) =
      some ⟨(dialect.denoted f.name).toList, f.columnType.lexemes dialect,
        some [.text (dialect.shown s.toList)], !f.isNullable⟩ := by
  have hread : ∀ p ∈ (TableSchema.ofDescriptor d).parts dialect,
      ∃ ls, spelled p.toList = some ls ∧ Whole ls := by
    intro p hp
    exact (part_spelled hd hp).resolve_right fun h => h.1 hw
  choose! lexemes hlexemes using hread
  have hparts : List.Forall₂ (fun p ls => spelled p = some ls ∧ Whole ls)
      (((TableSchema.ofDescriptor d).parts dialect).map String.toList)
      (((TableSchema.ofDescriptor d).parts dialect).map lexemes) := by
    rw [List.forall₂_map_left_iff, List.forall₂_map_right_iff, List.forall₂_same]
    exact hlexemes
  have hplace : ((TableSchema.ofDescriptor d).parts dialect)[TableSchema.implicit.length + i]? =
      some (f.column.sql dialect) := part_of_field hf
  have hpart := List.mem_of_getElem? hplace
  have hne : ((TableSchema.ofDescriptor d).parts dialect).map lexemes ≠ [] := by
    intro h
    rw [List.map_eq_nil_iff.mp h] at hpart
    cases hpart
  have hcolumn : f.column ∈ (TableSchema.ofDescriptor d).columns :=
    List.mem_append_right _ (List.mem_map_of_mem (List.mem_of_getElem? hf))
  have hdefault : f.column.default = some (.literal (.text s)) := by
    simp [Field.column, hs]
  obtain ⟨ls, hls, -, hcolumnText⟩ := @spelled_column dialect f.column (column_name hd hcolumn) (by
    rintro x hx hnull
    obtain ⟨g, hg, -, t, ht, hm⟩ := column_hasNull hcolumn hx hnull
    exact hw g hg t ht hm)
  have hsame : lexemes (f.column.sql dialect) = ls :=
    Option.some.inj ((hlexemes _ hpart).1.symm.trans hls)
  rw [columnAt?, TableSchema.definitions?_render hne (isNameChar_of_identifier hd.name.1) hparts,
    Option.bind_some, List.getElem?_map, hplace, Option.map_some, Option.bind_some, hsame]
  exact hcolumnText s hdefault

/-- A null character anywhere among the defaults leaves no statement to read. -/
theorem column_unprinted (hd : d.Accepted) (hw : ¬ d.Writable) (k : ℕ) :
    columnAt? ((TableSchema.ofDescriptor d).render dialect) k = none := by
  simp only [Writable, not_forall, not_not] at hw
  obtain ⟨f, hf, s, hs, hm⟩ := hw
  have hcolumn : f.column ∈ (TableSchema.ofDescriptor d).columns :=
    List.mem_append_right _ (List.mem_map_of_mem hf)
  have hbroken : run .between (f.column.sql dialect).toList = none :=
    column_broken (column_name hd hcolumn) (d := .literal (.text s)) (by simp [Field.column, hs])
      ⟨s, rfl, hm⟩
  have hpart : f.column.sql dialect ∈ (TableSchema.ofDescriptor d).parts dialect :=
    List.mem_append_left _ (List.mem_append_left _ (List.mem_map_of_mem hcolumn))
  rw [columnAt?, TableSchema.definitions?_broken (isNameChar_of_identifier hd.name.1)
    (fun p hp => (part_spelled hd hp).imp (fun ⟨ls, h, _⟩ => ⟨ls, h⟩) fun h => h.2)
    ⟨_, hpart, hbroken⟩]
  rfl

/-- The text of a default comes back from the printed table exactly if no default of the entity
holds a null character and the text has no percent sign, which the first dialect writes twice. -/
theorem default_printed_iff (hd : d.Accepted) (dialect : Dialect) (hf : d.fields[i]? = some f)
    (hs : f.storage.default = some (.text s)) :
    columnAt? ((TableSchema.ofDescriptor d).render dialect) (TableSchema.implicit.length + i) =
        some ⟨(dialect.denoted f.name).toList, f.columnType.lexemes dialect,
          some [.text s.toList], !f.isNullable⟩ ↔
      d.Writable ∧ (dialect = .postgresql → '%' ∉ s.toList) := by
  constructor
  · intro h
    have hw : d.Writable := by
      by_contra hn
      rw [column_unprinted hd hn] at h
      cases h
    rw [column_printed hd hw hf hs] at h
    have hshown : dialect.shown s.toList = s.toList := by
      injection h with h
      injection h with _ _ h _
      exact Lexeme.text.inj (List.cons.inj (Option.some.inj h)).1
    exact ⟨hw, shown_eq_iff.mp hshown⟩
  · rintro ⟨hw, hpercent⟩
    rw [column_printed hd hw hf hs, shown_eq_iff.mpr hpercent]

/-- An entity with a rate and a remark, each with a default in which characters are escaped. -/
def rated : Descriptor :=
  { name := "rate", fields := [
    { name := "remark", kind := .shortText, storage := { default := some (.text "it's 5\\") } },
    { name := "share", kind := .shortText, storage := { default := some (.text "100%") } }] }

theorem rated_writable : rated.Writable := by
  intro f hf s hs
  rcases List.mem_pair.mp hf with rfl | rfl <;> cases hs <;> decide

/-- Quotes and backslashes come back from either dialect, and a percent sign from the second. -/
theorem rated_printed : rated.Accepted ∧
    (∀ dialect, columnAt? ((TableSchema.ofDescriptor rated).render dialect) 3 =
      some ⟨"remark".toList, [keyword "VARCHAR", .mark '(', number 255, .mark ')'],
        some [.text "it's 5\\".toList], false⟩) ∧
    columnAt? ((TableSchema.ofDescriptor rated).render .sqlite) 4 =
      some ⟨"share".toList, [keyword "VARCHAR", .mark '(', number 255, .mark ')'],
        some [.text "100%".toList], false⟩ := by
  have hd : rated.Accepted := by
    unfold Accepted
    rfl
  refine ⟨hd, fun dialect => ?_, ?_⟩
  · refine ((default_printed_iff hd dialect (i := 0) rfl rfl).mpr
      ⟨rated_writable, fun _ => by decide⟩).trans ?_
    cases dialect <;> decide +kernel
  · exact ((default_printed_iff hd .sqlite (i := 1) rfl rfl).mpr
      ⟨rated_writable, nofun⟩).trans (by decide +kernel)

/-- A percent sign comes back as two from the first dialect. -/
theorem percent_doubled : rated.Accepted ∧
    columnAt? ((TableSchema.ofDescriptor rated).render .postgresql) 4 =
      some ⟨"share".toList, [keyword "VARCHAR", .mark '(', number 255, .mark ')'],
        some [.text "100%%".toList], false⟩ := by
  have hd : rated.Accepted := by
    unfold Accepted
    rfl
  exact ⟨hd, (column_printed hd rated_writable (i := 1) rfl rfl).trans (by decide +kernel)⟩

end Descriptor

end EntityStore
