import EntityStore.Proofs.Indexing
import EntityStore.Proofs.Matching

/-! # Entities side by side

What is done for one entity is seen by no other whose table, indexes and trigger have names of their
own: leaving out the calls for the others changes no answer. Names count as the database reads them,
which does not tell the case of letters apart.
-/
namespace EntityStore

open Database

namespace TableSchema

/-- Nothing that is made for one of two tables has the name of what the other one needs. -/
structure Apart (t u : TableSchema) : Prop where
  tables : sameName t.denotedName u.denotedName = false
  own : ∀ i ∈ t.indexes, sameName (denoted i.name) u.denotedName = false
  other : ∀ i ∈ u.indexes, sameName (denoted i.name) t.denotedName = false
  triggers : sameName (denoted t.trigger) (denoted u.trigger) = false

instance (t u : TableSchema) : Decidable (t.Apart u) :=
  decidable_of_iff (_ ∧ _ ∧ _ ∧ _)
    ⟨fun h => ⟨h.1, h.2.1, h.2.2.1, h.2.2.2⟩, fun h => ⟨h.tables, h.own, h.other, h.triggers⟩⟩

end TableSchema

namespace Database

variable {t u : TableSchema} {db db' after after' : Database}

/-! ## What an entity sees of a database -/

/-- Whether a trigger stands on a table of a name. -/
def touches (db : Database) (name : String) : Bool :=
  db.triggers.any fun trigger => sameName trigger.table name

theorem isTouched_eq {tbl : Table} (h : db.table? t.denotedName = some tbl) :
    db.isTouched tbl = db.touches t.denotedName := by
  have hsame : ∀ a, sameName a tbl.name = sameName a t.denotedName :=
    fun a => sameName_congr (sameName_of_table? h)
  simp only [isTouched, touches, hsame]

/-- A table was made as it is asked for, and the triggers on it bear the name that is asked for. -/
structure Owned (t : TableSchema) (db : Database) : Prop where
  table : ∀ tbl, db.table? t.denotedName = some tbl → t.Makes tbl
  triggers : ∀ trigger ∈ db.triggers, sameName trigger.table t.denotedName = true →
    sameName trigger.name (denoted t.trigger) = true

theorem owned_empty (t : TableSchema) : Owned t {} :=
  ⟨(by simp [table?]), (by simp)⟩

/-- Two databases are the same for what is done for a table. -/
structure Agree (t : TableSchema) (db db' : Database) : Prop where
  table : db.table? t.denotedName = db'.table? t.denotedName
  touched : db.touches t.denotedName = db'.touches t.denotedName
  taken : (db.index? t.denotedName).isSome = (db'.index? t.denotedName).isSome
  named : ∀ i ∈ t.indexes,
    (db.table? (denoted i.name)).isSome = (db'.table? (denoted i.name)).isSome
  left : Owned t db
  right : Owned t db'

theorem Agree.refl (h : Owned t db) : Agree t db db := ⟨rfl, rfl, rfl, fun _ _ => rfl, h, h⟩

theorem Agree.symm (h : Agree t db db') : Agree t db' db :=
  ⟨h.table.symm, h.touched.symm, h.taken.symm, fun i hi => (h.named i hi).symm, h.right, h.left⟩

theorem Agree.trans (h : Agree t db db') (k : Agree t db' after) : Agree t db after :=
  ⟨h.table.trans k.table, h.touched.trans k.touched, h.taken.trans k.taken,
    fun i hi => (h.named i hi).trans (k.named i hi), h.left, k.right⟩

theorem Agree.view (h : Agree t db db') : db.view t.denotedName = db'.view t.denotedName := by
  unfold Database.view
  rw [← h.table]
  cases ht : db.table? t.denotedName with
  | none => rfl
  | some tbl =>
    have ht' : db'.table? t.denotedName = some tbl := h.table.symm.trans ht
    rw [Option.map_some, Option.map_some, isTouched_eq ht, isTouched_eq ht', h.touched]

/-! ## Rows -/

section Rows

variable (rows : Option (List Row))

theorem Owned.rewritten (h : Owned t db) (name : String) (hname : name = t.denotedName ∨
    sameName name t.denotedName = false) : Owned t (db.rewritten name rows) := by
  refine ⟨fun tbl htbl => ?_, by simpa using h.triggers⟩
  rcases hname with rfl | hname
  · rw [table?_rewritten] at htbl
    obtain ⟨old, hold, rfl⟩ := Option.map_eq_some_iff.mp htbl
    cases rows with
    | none => exact h.table old hold
    | some given => exact h.table old hold
  · rw [table?_rewritten_other db name rows hname] at htbl
    exact h.table tbl htbl

/-- The same rows written in both keep what is seen the same. -/
theorem Agree.rewritten (h : Agree t db db') :
    Agree t (db.rewritten t.denotedName rows) (db'.rewritten t.denotedName rows) := by
  refine ⟨?_, ?_, ?_, fun i hi => ?_, h.left.rewritten rows _ (.inl rfl),
    h.right.rewritten rows _ (.inl rfl)⟩
  · rw [table?_rewritten, table?_rewritten, h.table]
  · simpa [touches] using h.touched
  · simpa [index?] using h.taken
  · rw [table?_rewritten_isSome, table?_rewritten_isSome, h.named i hi]

/-- Rows of another table are not seen. -/
theorem Owned.agree_rewritten (h : Owned t db) {name : String}
    (hname : sameName name t.denotedName = false) : Agree t db (db.rewritten name rows) := by
  refine ⟨?_, ?_, ?_, fun i hi => ?_, h, h.rewritten rows name (.inr hname)⟩
  · rw [table?_rewritten_other db name rows hname]
  · simp [touches]
  · simp [index?]
  · rw [table?_rewritten_isSome]

end Rows

/-! ## Statements of another table -/

section Other

theorem touches_dropTrigger (h : Owned t db) {trigger : String}
    (hname : sameName (denoted t.trigger) (denoted trigger) = false) :
    (db.dropTrigger (denoted trigger)).touches t.denotedName = db.touches t.denotedName := by
  rw [Bool.eq_iff_iff]
  simp only [touches, dropTrigger, List.any_eq_true, List.mem_filter]
  constructor
  · rintro ⟨other, ⟨hmem, -⟩, htable⟩
    exact ⟨other, hmem, htable⟩
  · rintro ⟨other, hmem, htable⟩
    refine ⟨other, ⟨hmem, ?_⟩, htable⟩
    -- a trigger on the table bears its own name, so it is not the one that is dropped
    rw [sameName_comm, sameName_congr (h.triggers other hmem htable), sameName_comm, hname]
    rfl

/-- No statement of a table is seen from a table that is apart from it. -/
theorem Owned.agree_effect (h : Owned t db) (hapart : t.Apart u) {statement : Statement}
    (hs : statement ∈ u.statements .sqlite) (heffect : Effect db statement after) :
    Agree t db after := by
  have hother : sameName u.denotedName t.denotedName = false := by
    rw [sameName_comm]
    exact hapart.tables
  simp only [TableSchema.statements, List.append_nil, List.mem_append, List.mem_map,
    List.mem_cons, List.not_mem_nil, or_false] at hs
  cases heffect with
  | nothing => exact .refl h
  | @table t' absent free distinct =>
    obtain rfl : t' = u := by simpa using hs
    have hname : sameName (⟨t'.made, []⟩ : Table).name t.denotedName = false := hother
    refine ⟨(table?_append_other hname).symm, rfl, rfl, fun i hi => ?_,
      h, ⟨fun tbl htbl => ?_, h.triggers⟩⟩
    · have hfree : sameName (⟨t'.made, []⟩ : Table).name (denoted i.name) = false := by
        rw [sameName_comm]
        exact hapart.own i hi
      rw [isSome_table?_append, hfree, Bool.or_false]
    · rw [table?_append_other hname] at htbl
      exact h.table tbl htbl
  | @index table i tbl column there free absent =>
    obtain ⟨i', hi, -, rfl⟩ : ∃ i' ∈ u.indexes, u.name = table ∧ i' = i := by simpa using hs
    refine ⟨rfl, rfl, ?_, fun _ _ => rfl, h, ⟨h.table, h.triggers⟩⟩
    rw [isSome_index?_append, hapart.other i' hi, Bool.or_false]
  | dropped table trigger =>
    obtain ⟨-, rfl⟩ : table = u.name ∧ trigger = u.trigger := by simpa using hs
    refine ⟨rfl, (touches_dropTrigger h hapart.triggers).symm, rfl, fun _ _ => rfl, h, h.table, ?_⟩
    intro trigger hmem
    exact h.triggers trigger (List.mem_of_mem_filter hmem)
  | @trigger table trigger tbl there =>
    obtain ⟨rfl, rfl⟩ : table = u.name ∧ trigger = u.trigger := by simpa using hs
    have hon : sameName tbl.name t.denotedName = false := by
      rw [sameName_comm, sameName_congr (sameName_of_table? there)]
      exact hapart.tables
    refine ⟨rfl, by simp [touches, hon], rfl, fun _ _ => rfl, h, h.table, ?_⟩
    intro trigger hmem htable
    rcases List.mem_append.mp hmem with hmem | hmem
    · exact h.triggers trigger hmem htable
    · rw [List.mem_singleton.mp hmem] at htable
      rw [hon] at htable
      cases htable

/-- No application of a table is seen from a table that is apart from it, however it ends. -/
theorem Owned.agree_applyAll (h : Owned t db) (hapart : t.Apart u) :
    Agree t db (db.applyAll (u.statements .sqlite)).1 := by
  refine applyAll_induction (P := Agree t db) ?_ (.refl h)
  intro statement hs mid after hmid heffect
  exact hmid.trans (hmid.right.agree_effect hapart hs heffect)

end Other

/-! ## Statements of the table itself -/

section Own

/-- Both fail alike, or both succeed and are still seen the same. -/
inductive AgreeAfter (t : TableSchema) : Except Fault Database → Except Fault Database → Prop
  | failed (fault : Fault) : AgreeAfter t (.error fault) (.error fault)
  | made {after after' : Database} (h : Agree t after after') : AgreeAfter t (.ok after) (.ok after')

theorem createTable_there (hfault : db.createTableFault? t = none)
    (h : (db.table? t.denotedName).isSome = true) : db.createTable t = .ok db := by
  have hthere : (db.table? (t.rename denoted).name).isSome = true := h
  simp only [Database.createTable, hfault, if_pos hthere]

theorem createTable_absent (hfault : db.createTableFault? t = none)
    (h : db.table? t.denotedName = none) :
    db.createTable t = .ok { db with tables := db.tables ++ [⟨t.made, []⟩] } ∧
      Database.table? { db with tables := db.tables ++ [⟨t.made, []⟩] } t.denotedName =
        some ⟨t.made, []⟩ ∧ t.Distinct := by
  have habsent : ¬ (db.table? (t.rename denoted).name).isSome = true :=
    Option.not_isSome_iff_eq_none.mpr h
  have hok : db.createTable t = .ok { db with tables := db.tables ++ [⟨t.made, []⟩] } := by
    simp only [Database.createTable, hfault, if_neg habsent]
    rfl
  obtain ⟨hgrows, hsome⟩ := createTable_ok hok
  rcases hgrows with hsame | ⟨-, hd, hfound⟩
  · rw [hsame, h] at hsome
    cases hsome
  · exact ⟨hok, hfound, hd⟩

theorem Owned.addTable (h : Owned t db) (hd : t.Distinct)
    (hfound : Database.table? { db with tables := db.tables ++ [⟨t.made, []⟩] } t.denotedName =
      some ⟨t.made, []⟩) : Owned t { db with tables := db.tables ++ [⟨t.made, []⟩] } := by
  refine ⟨fun tbl htbl => ?_, h.triggers⟩
  cases hfound.symm.trans htbl
  exact ⟨rfl, hd⟩

theorem Agree.createTable (h : Agree t db db') :
    AgreeAfter t (db.createTable t) (db'.createTable t) := by
  have hfault : db'.createTableFault? t = db.createTableFault? t := by
    have htable : db'.table? (denoted t.name) = db.table? (denoted t.name) := h.table.symm
    have htaken : (db'.index? (denoted t.name)).isSome = (db.index? (denoted t.name)).isSome :=
      h.taken.symm
    simp only [createTableFault?, tableNameFault?, htable, htaken]
  cases hf : db.createTableFault? t with
  | some fault =>
    simp only [Database.createTable, hfault, hf]
    exact .failed fault
  | none =>
    have hf' : db'.createTableFault? t = none := hfault.trans hf
    cases ht : db.table? t.denotedName with
    | some tbl =>
      rw [createTable_there hf (by rw [ht]; rfl), createTable_there hf' (by rw [← h.table, ht]; rfl)]
      exact .made h
    | none =>
      obtain ⟨hok, hfound, hd⟩ := createTable_absent hf ht
      obtain ⟨hok', hfound', -⟩ := createTable_absent hf' (h.table.symm.trans ht)
      rw [hok, hok']
      refine .made ⟨hfound.trans hfound'.symm, h.touched, h.taken, fun i hi => ?_,
        h.left.addTable hd hfound, h.right.addTable hd hfound'⟩
      rw [isSome_table?_append, isSome_table?_append, h.named i hi]

/-- An index over a column of the table is made or there, and it is not seen. -/
theorem Owned.createIndex (h : Owned t db) (hcolumns : ∀ i ∈ t.indexes, ∃ c ∈ t.columns, c.name = i.column)
    {tbl : Table} (htbl : db.table? t.denotedName = some tbl) {i : ColumnKey} (hi : i ∈ t.indexes)
    (hfree : db.table? (denoted i.name) = none) : ∃ after,
      db.createIndex t.denotedName (denoted i.name) (denoted i.column) = .ok after ∧
        Agree t db after := by
  obtain ⟨hschema, hd⟩ := h.table tbl htbl
  have hcolumn : ∃ c, (tbl.columns.find? fun c => sameName c.name (denoted i.column)) = some c := by
    obtain ⟨c, hc, hname⟩ := hcolumns i hi
    have hcols : tbl.columns = t.made.columns := congrArg TableSchema.columns hschema
    exact ⟨_, by rw [hcols, ← hname, find?_made hd hc]⟩
  obtain ⟨c, hc⟩ := hcolumn
  have hname : sameName (denoted i.name) t.denotedName = false := by
    by_contra hsame
    rw [Bool.not_eq_false] at hsame
    have hfind : db.table? (denoted i.name) = db.table? t.denotedName := by
      simp only [table?, sameName_congr hsame]
    rw [hfind, htbl] at hfree
    cases hfree
  simp only [Database.createIndex, htbl, hfree, hc, Option.isSome_none, Bool.false_eq_true, if_false]
  split
  · exact ⟨db, rfl, .refl h⟩
  · refine ⟨_, rfl, rfl, rfl, ?_, fun _ _ => rfl, h, ⟨h.table, h.triggers⟩⟩
    rw [isSome_index?_append, hname, Bool.or_false]

theorem Agree.createIndex (h : Agree t db db')
    (hcolumns : ∀ i ∈ t.indexes, ∃ c ∈ t.columns, c.name = i.column) {i : ColumnKey}
    (hi : i ∈ t.indexes) :
    AgreeAfter t (db.createIndex t.denotedName (denoted i.name) (denoted i.column))
      (db'.createIndex t.denotedName (denoted i.name) (denoted i.column)) := by
  cases ht : db.table? t.denotedName with
  | none =>
    have ht' : db'.table? t.denotedName = none := h.table.symm.trans ht
    simp only [Database.createIndex, ht, ht']
    exact .failed _
  | some tbl =>
    have ht' : db'.table? t.denotedName = some tbl := h.table.symm.trans ht
    have hnamed := h.named i hi
    cases hn : db.table? (denoted i.name) with
    | some other =>
      rw [hn, Option.isSome_some] at hnamed
      simp only [Database.createIndex, ht, ht', hn, ← hnamed, Option.isSome_some, if_true]
      exact .failed _
    | none =>
      rw [hn, Option.isSome_none] at hnamed
      obtain ⟨after, hmade, hafter⟩ := h.left.createIndex hcolumns ht hi hn
      obtain ⟨after', hmade', hafter'⟩ := h.right.createIndex hcolumns ht' hi
        (Option.not_isSome_iff_eq_none.mp (by simp [← hnamed]))
      rw [hmade, hmade']
      exact .made (hafter.symm.trans (h.trans hafter'))

theorem Agree.applyAll_creations (h : Agree t db db')
    (hcolumns : ∀ i ∈ t.indexes, ∃ c ∈ t.columns, c.name = i.column) {statements : List Statement}
    (hs : statements ⊆ t.creations) :
    (db.applyAll statements).2 = (db'.applyAll statements).2 ∧
      Agree t (db.applyAll statements).1 (db'.applyAll statements).1 := by
  induction statements generalizing db db' with
  | nil => exact ⟨rfl, h⟩
  | cons statement rest ih =>
    have hboth : AgreeAfter t (db.apply statement) (db'.apply statement) := by
      rcases List.mem_cons.mp (hs (List.mem_cons_self ..)) with rfl | hmem
      · exact h.createTable
      · obtain ⟨i, hi, rfl⟩ := List.mem_map.mp hmem
        exact h.createIndex hcolumns hi
    rw [Database.applyAll, Database.applyAll]
    generalize db.apply statement = r at hboth ⊢
    generalize db'.apply statement = r' at hboth ⊢
    cases hboth with
    | failed fault => exact ⟨rfl, h⟩
    | made hafter => exact ih hafter fun st hst => hs (List.mem_cons_of_mem _ hst)

theorem Agree.retriggered (h : Agree t db db') {tbl : Table}
    (htbl : db.table? t.denotedName = some tbl) :
    Agree t (db.retriggered t tbl) (db'.retriggered t tbl) := by
  have hname := sameName_of_table? htbl
  have howned : ∀ {db : Database}, Owned t db → Owned t (db.retriggered t tbl) := by
    intro db howned
    refine ⟨howned.table, fun trigger hmem htable => ?_⟩
    rcases mem_retriggered.mp hmem with ⟨hold, -⟩ | rfl
    · exact howned.triggers trigger hold htable
    · exact sameName_refl _
  refine ⟨h.table, ?_, h.taken, h.named, howned h.left, howned h.right⟩
  simp [touches, Database.retriggered, hname]

/-- An application of the table itself ends alike on both. -/
theorem Agree.applyAll (h : Agree t db db')
    (hcolumns : ∀ i ∈ t.indexes, ∃ c ∈ t.columns, c.name = i.column) :
    (db.applyAll (t.statements .sqlite)).2 = (db'.applyAll (t.statements .sqlite)).2 ∧
      Agree t (db.applyAll (t.statements .sqlite)).1 (db'.applyAll (t.statements .sqlite)).1 := by
  obtain ⟨hend, hafter⟩ := h.applyAll_creations hcolumns (List.Subset.refl _)
  have happ := application t db
  have happ' := application t db'
  generalize db.applyAll (t.statements .sqlite) = x at happ ⊢
  generalize db'.applyAll (t.statements .sqlite) = x' at happ' ⊢
  cases happ with
  | refused hc =>
    cases happ' with
    | refused hc' =>
      rw [hc, hc'] at hend hafter
      exact ⟨hend, hafter⟩
    | made hc' htbl' =>
      rw [hc, hc'] at hend
      cases hend
  | made hc htbl =>
    cases happ' with
    | refused hc' =>
      rw [hc, hc'] at hend
      cases hend
    | made hc' htbl' =>
      rw [hc, hc'] at hafter
      cases htbl.symm.trans (hafter.table.trans htbl')
      exact ⟨rfl, hafter.retriggered htbl⟩

end Own

theorem sees_agree (t : TableSchema) : Store.Sees t.denotedName (Agree t) :=
  ⟨fun _ _ h => h.view, fun _ _ rows h => h.rewritten rows⟩

end Database

/-! ## Calls for several entities -/

/-- A call for an entity, at a time and with the ids that are to come. -/
structure Visit where
  entity : Registered
  clock : Clock
  call : Call

namespace Visit

def pay (visit : Visit) (s : Store) : Except Failure Answer × Store :=
  (visit.call.perform visit.entity).on { s with clock := visit.clock }

/-- The outcomes of visits, one after another. -/
def outcomes : List Visit → Store → List (Visit × Except Failure Answer)
  | [], _ => []
  | visit :: rest, s => (visit, (visit.pay s).1) :: outcomes rest (visit.pay s).2

end Visit

namespace Store

variable {reg : Registry} {e : Registered} {s s' : Store}

/-- Two stores on which an entity is served alike. -/
structure Twins (e : Registered) (s s' : Store) : Prop where
  databases : Matches (Agree e.schema) s s'
  applied : s.isApplied e = s'.isApplied e

theorem Twins.clocked (h : Twins e s s') (c : Clock) :
    Twins e { s with clock := c } { s' with clock := c } := ⟨h.databases.clocks c c, h.applied⟩

/-- The table of the entity is ensured alike on both. -/
theorem Twins.ensure {r r' : Except Failure TableSchema} {t t' : Store} (h : Twins e s s')
    (hl : (Store.ensure e).on s = (r, t)) (hr : (Store.ensure e).on s' = (r', t')) :
    r = r' ∧ Twins e t t' := by
  cases hs : s.isApplied e with
  | true =>
    rw [ensure_known hs] at hl
    rw [ensure_known (h.applied.symm.trans hs)] at hr
    cases hl
    cases hr
    exact ⟨rfl, h⟩
  | false =>
    obtain ⟨hanswer, hmatch, hmarks⟩ := h.databases.ensure hs (h.applied.symm.trans hs)
      (fun db db' hdb => hdb.applyAll (Descriptor.indexed_columns e.descriptor)) hl hr
    refine ⟨hanswer, hmatch, ?_⟩
    rcases hmarks with ⟨hleft, hright⟩ | ⟨hleft, hright⟩
    · rw [isApplied, isApplied, hleft, hright]
      exact h.applied
    · simp [isApplied, hleft, hright]

/-- A call for the entity is answered alike on both. -/
theorem Twins.perform (h : Twins e s s') (hclock : s.clock = s'.clock) (call : Call) :
    ((call.perform e).on s).1 = ((call.perform e).on s').1 ∧
      Twins e ((call.perform e).on s).2 ((call.perform e).on s').2 := by
  have hboth := @perform_alike s s' e (fun t t' => Twins e t t' ∧ t.clock = t'.clock) call
    (by
      intro r r' t t' hl hr
      obtain ⟨hsame, hready⟩ := h.ensure hl hr
      refine ⟨hsame, hready, ?_⟩
      rw [(ensure_spec hl).1.extension.clock, (ensure_spec hr).1.extension.clock, hclock])
    (by
      rintro t t' ⟨hready, hclock⟩
      obtain ⟨hanswer, hafter, hlater⟩ := hready.databases.outcome (sees_agree e.schema) hclock call
      refine ⟨hanswer, ⟨hafter, ?_⟩, hlater⟩
      rw [isApplied, isApplied, (outcome_rewrites call t).2, (outcome_rewrites call t').2]
      exact hready.applied)
  exact ⟨hboth.1, hboth.2.1⟩

/-- A call for an entity that is apart changes nothing for the first one. -/
theorem Twins.perform_other (h : Twins e s s') {x : Registered} (hapart : e.schema.Apart x.schema)
    (hplace : x.place ≠ e.place) (call : Call) : Twins e ((call.perform x).on s).2 s' := by
  obtain ⟨hmatch, hmarks⟩ := perform_matches (e := x) (s := s)
    (R := fun db after => Owned e.schema db → Agree e.schema db after)
    (fun db hdb => .refl hdb)
    (fun db mid after hmid hafter hdb => (hmid hdb).trans (hafter (hmid hdb).right))
    (fun _ db hdb => hdb.agree_applyAll hapart)
    (fun db rows hdb => hdb.agree_rewritten rows (by rw [sameName_comm]; exact hapart.tables))
    call
  refine ⟨h.databases.step hmatch (.refl s') ?_, ?_⟩
  · rintro db db' after _ hdb hafter rfl
    exact (hafter hdb.left).symm.trans hdb
  · rw [← h.applied, isApplied, isApplied]
    rcases hmarks with hm | hm
    · rw [hm]
    · simp [hm, hplace.symm]

/-- On one of two stores the visits for entities that are apart are left out. -/
theorem Twins.outcomes {visits : List Visit} (h : Twins e s s')
    (hreg : ∀ x ∈ e :: visits.map (·.entity), reg.Holds x)
    (hapart : ∀ v ∈ visits, v.entity.place ≠ e.place → e.schema.Apart v.entity.schema) :
    (Visit.outcomes visits s).filter (fun seen => seen.1.entity.place = e.place) =
      Visit.outcomes (visits.filter fun v => v.entity.place = e.place) s' := by
  induction visits generalizing s s' with
  | nil => rfl
  | cons v rest ih =>
    have hrest := fun {s s'} (h : Twins e s s') => @ih s s' h
      (fun x hx => hreg x (by simp at hx ⊢; tauto))
      fun w hw => hapart w (List.mem_cons_of_mem _ hw)
    rw [Visit.outcomes]
    by_cases hplace : v.entity.place = e.place
    · have hself : v.entity = e := by
        have hd := (hreg v.entity (by simp)).descriptor_eq (hreg e (by simp)) hplace
        rcases hx : v.entity with ⟨place, d⟩
        rw [hx] at hplace hd
        exact congrArg₂ Registered.mk hplace hd
      have hpay : ∀ s, v.pay s = (v.call.perform e).on { s with clock := v.clock } := by
        intro s
        rw [Visit.pay, hself]
      obtain ⟨hanswer, hafter⟩ := (h.clocked v.clock).perform rfl v.call
      rw [← hpay, ← hpay] at hanswer hafter
      rw [List.filter_cons_of_pos (by simpa using hplace),
        List.filter_cons_of_pos (by simpa using hplace), Visit.outcomes, hrest hafter, hanswer]
    · rw [List.filter_cons_of_neg (by simpa using hplace),
        List.filter_cons_of_neg (by simpa using hplace)]
      have hclocked : Twins e { s with clock := v.clock } s' :=
        ⟨h.databases.clocks v.clock s'.clock, h.applied⟩
      exact hrest (hclocked.perform_other (hapart v (by simp) hplace) hplace v.call)

/-- Leaving out the calls for entities that are apart changes no outcome of the calls for an entity. -/
theorem isolated {visits : List Visit} (howned : ∀ db, s.database? = some db → Owned e.schema db)
    (hreg : ∀ x ∈ e :: visits.map (·.entity), reg.Holds x)
    (hapart : ∀ v ∈ visits, v.entity.place ≠ e.place → e.schema.Apart v.entity.schema) :
    (Visit.outcomes visits s).filter (fun seen => seen.1.entity.place = e.place) =
      Visit.outcomes (visits.filter fun v => v.entity.place = e.place) s := by
  have hstart : Twins e s s := by
    refine ⟨⟨rfl, rfl, rfl, ?_⟩, rfl⟩
    cases hd : s.database? with
    | none => exact .unreached hd hd rfl
    | some db => exact .reached hd hd (.refl (howned db hd))
  exact hstart.outcomes hreg hapart

/-- An entity with the field of `narrow`, in a table of another name. -/
def beside : Registered := ⟨1, { name := "u", fields := [{ name := "a", kind := .shortText }] }⟩

/-- An entity whose name is that of `narrow` in capitals. -/
def capital : Registered := ⟨1, { name := "T", fields := [{ name := "a", kind := .shortText }] }⟩

/-- A record is stored for one entity, and then those of `narrow` are counted. -/
def storedThenCounted (x : Registered) : List Visit :=
  [⟨x, .standard, .create (.mapping [("a", .text "x")])⟩, ⟨narrow, .standard, .count .null⟩]

/-- A record of an entity apart is not counted. -/
theorem beside_unseen :
    (∀ db, inMemory.database? = some db → Owned narrow.schema db) ∧
    (∀ x ∈ narrow :: (storedThenCounted beside).map (·.entity),
      Registry.Holds ⟨[narrow.descriptor, beside.descriptor]⟩ x) ∧
    narrow.schema.Apart beside.schema ∧
    (Visit.outcomes (storedThenCounted beside) inMemory).filter
        (fun seen => seen.1.entity.place = narrow.place) =
      Visit.outcomes ((storedThenCounted beside).filter fun v => v.entity.place = narrow.place)
        inMemory := by
  have howned : ∀ db, inMemory.database? = some db → Owned narrow.schema db := by
    intro db hdb
    have hempty : inMemory.database? = some {} := by decide +kernel
    cases hempty.symm.trans hdb
    exact owned_empty _
  have hreg : ∀ x ∈ narrow :: (storedThenCounted beside).map (·.entity),
      Registry.Holds ⟨[narrow.descriptor, beside.descriptor]⟩ x := by
    simp [storedThenCounted, Registry.Holds, narrow, beside]
  have hapart : narrow.schema.Apart beside.schema := by decide +kernel
  refine ⟨howned, hreg, hapart, isolated howned hreg ?_⟩
  intro v hv hplace
  rcases List.mem_pair.mp hv with rfl | rfl
  · exact hapart
  · exact absurd rfl hplace

/-- What a count answers. -/
def counted? : Except Failure Answer → Option Nat
  | .ok (.counted n) => some n
  | _ => none

theorem sameName_of_lower {a b : String}
    (h : a.toList.map Char.toLower = b.toList.map Char.toLower) : sameName a b = true := by
  have hlower : ∀ s : String, s.toLower.toList = s.toList.map Char.toLower := by
    intro s
    change (s.map Char.toLower).toList = _
    rw [String.toList_map]
  rw [sameName, decide_eq_true_iff, ← String.toList_inj, hlower, hlower, h]

/-- A count without filters counts the rows of the table that is found by the name. -/
theorem counted_ready {t : TableSchema} {ready : Store} {db : Database} {tbl : Table}
    (he : (ensure e).on s = (.ok t, ready)) (hdb : ready.database? = some db)
    (htbl : db.table? e.schema.denotedName = some tbl) :
    counted? ((Call.perform e (.count .null)).on s).1 = some tbl.rows.length := by
  have hmatching : tbl.matching [] = tbl.rows := by simp [Table.matching]
  have hcount : db.count e.schema.denotedName [] = .ok tbl.rows.length := by
    simp [Database.count, findTable_eq htbl, Table.readFault?, hmatching]
  have hplan : Call.plan e ready.paging ready.clock (.count .null) = .ok (.transact "count"
      ready.clock (Plan.telling .counted fun db => (asOperation e.schema.name "count"
        (db.count e.schema.denotedName [])).map fun n => (db, n))) := rfl
  rw [Call.perform_ready _ he, hplan, Call.outcome_ok, Call.on_follow_transact]
  have hclocked : ({ ready with clock := ready.clock } : Store).database? = some db := hdb
  rw [transaction_reached hclocked]
  simp [Plan.telling, hcount, asOperation, Except.mapError, Except.map, counted?]

theorem capital_sameName : sameName capital.schema.name narrow.schema.denotedName = true := by
  have hname : narrow.schema.denotedName = "t" := by decide +kernel
  rw [hname]
  exact sameName_of_lower (by decide +kernel)

/-- An entity finds a table whose name is its own in capitals. -/
theorem counted_capital {rows : List Row} {triggers : List Trigger}
    (hdb : s.database? = some ⟨[⟨capital.schema, rows⟩], [], triggers⟩)
    (hs : s.isApplied narrow = false) :
    counted? ((Call.perform narrow (.count .null)).on s).1 = some rows.length := by
  generalize hd : (⟨[⟨capital.schema, rows⟩], [], triggers⟩ : Database) = db at hdb
  have htbl : db.table? narrow.schema.denotedName = some ⟨capital.schema, rows⟩ := by
    rw [table?_single (by rw [← hd]), Table.name, if_pos capital_sameName]
  have hfault : db.createTableFault? narrow.schema = none := by
    have hthere : db.table? (denoted narrow.schema.name) = some ⟨capital.schema, rows⟩ := htbl
    have htext : textFault? narrow.schema.columns = none := by decide +kernel
    have hsyntax : syntaxFault? narrow.schema.name = none := by decide +kernel
    have hsystem : isSystemName (denoted narrow.schema.name) = false := by decide +kernel
    have hcolumns : columnFault? (denoted narrow.schema.name) false [] narrow.schema.columns = none := by
      decide +kernel
    simp [createTableFault?, tableNameFault?, htext, hsyntax, hsystem, hthere, hcolumns]
  have hcreations : db.applyAll narrow.schema.creations = (db, none) :=
    applyAll_cons.mpr ⟨db, createTable_there hfault (by rw [htbl]; rfl), rfl⟩
  have hstatements : db.applyAll (narrow.schema.statements .sqlite) =
      (db.retriggered narrow.schema ⟨capital.schema, rows⟩, none) := by
    rw [narrow.schema.statements_eq, applyAll_append_none hcreations, applyAll_renewals htbl]
  rcases he : (ensure narrow).on s with ⟨r, ready⟩
  have hset := ensure_settled hdb hs he
  obtain rfl : r = .ok narrow.schema := by rw [hset.answer, hstatements]; rfl
  have hready := hset.database
  rw [hstatements] at hready
  exact counted_ready he hready htbl

/-- What is there after a record was stored for the entity in capitals. -/
theorem capital_stored {s : Store}
    (h : (Visit.pay ⟨capital, .standard, .create (.mapping [("a", .text "x")])⟩ inMemory).2 = s) :
    counted? (Visit.pay ⟨narrow, .standard, .count .null⟩ s).1 = some 1 := by
  have hunmarked : s.isApplied narrow = false := by
    rw [← h]
    decide +kernel
  have hmade : s.database?.map (fun db =>
      (db.tables.map fun tbl => (tbl.schema, tbl.rows.length), db.indexes)) =
      some ([(capital.schema, 1)], []) := by
    rw [← h]
    decide +kernel
  obtain ⟨⟨tables, indexes, triggers⟩, hdb, hmade⟩ := Option.map_eq_some_iff.mp hmade
  obtain ⟨htables, rfl⟩ := Prod.mk.inj hmade
  obtain ⟨⟨schema, rows⟩, rfl, hone⟩ := List.map_eq_singleton_iff.mp htables
  obtain ⟨rfl, hrows⟩ := Prod.mk.inj hone
  have hcount := @counted_capital { s with clock := .standard } rows triggers hdb hunmarked
  rw [hrows] at hcount
  exact hcount

/-- Of the two outcomes only the count is one for `narrow`. -/
theorem storedThenCounted_filter (s : Store) :
    ((Visit.outcomes (storedThenCounted capital) s).filter
      (fun seen => seen.1.entity.place = narrow.place)).map (fun seen => counted? seen.2) =
      [counted? (Visit.pay ⟨narrow, .standard, .count .null⟩
        (Visit.pay ⟨capital, .standard, .create (.mapping [("a", .text "x")])⟩ s).2).1] := rfl

/-- Two accepted entities of different names share a table, so that a record which is stored for one is
counted for the other. -/
theorem capital_seen : narrow.descriptor.Accepted ∧ capital.descriptor.Accepted ∧
    narrow.descriptor.name ≠ capital.descriptor.name ∧ inMemory.database? = some {} ∧
    ((Visit.outcomes (storedThenCounted capital) inMemory).filter
      (fun seen => seen.1.entity.place = narrow.place)).map (fun seen => counted? seen.2) = [some 1] ∧
    (Visit.outcomes ((storedThenCounted capital).filter fun v => v.entity.place = narrow.place)
      inMemory).map (fun seen => counted? seen.2) = [some 0] := by
  refine ⟨?_, ?_, by decide, by decide +kernel, ?_, by decide +kernel⟩
  · unfold Descriptor.Accepted
    rfl
  · unfold Descriptor.Accepted
    rfl
  · rw [storedThenCounted_filter, capital_stored rfl]

end Store

end EntityStore
