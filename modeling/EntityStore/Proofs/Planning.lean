import EntityStore.Proofs.Calls

/-! # Calls in two parts

A call first ensures the table of its entity. What it does then is settled by its arguments and the
clock: it is refused, it is answered at once, or it is one transaction, and that reads and writes the
rows of the entity's own table only.
-/
namespace EntityStore

open Database

/-! ## What a transaction sees and writes -/

namespace Database

variable {α β : Type}

/-- What statements about the rows of one table see of a database: the table, and whether a trigger
stands on it. -/
def view (db : Database) (name : String) : Option (Table × Bool) :=
  (db.table? name).map fun tbl => (tbl, db.isTouched tbl)

theorem table?_of_view {db db' : Database} {name : String} (h : db.view name = db'.view name) :
    db.table? name = db'.table? name := by
  have hmap := congrArg (Option.map Prod.fst) h
  simpa [view, Option.map_map, Function.comp_def] using hmap

/-- The database with new rows in a table, or as it was. -/
def rewritten (db : Database) (name : String) (rows : Option (List Row)) : Database :=
  match db.table? name, rows with
  | some tbl, some rows => db.putTable (tbl.withRows rows)
  | _, _ => db

@[simp] theorem rewritten_none (db : Database) (name : String) : db.rewritten name none = db := by
  unfold rewritten
  split
  · contradiction
  · rfl

theorem rewritten_some {db : Database} {name : String} {tbl : Table}
    (h : db.table? name = some tbl) (rows : List Row) :
    db.rewritten name (some rows) = db.putTable (tbl.withRows rows) := by
  simp only [rewritten, h]

theorem sameName_of_table? {db : Database} {name : String} {tbl : Table}
    (h : db.table? name = some tbl) : sameName tbl.name name = true := by
  have hname := List.find?_some h
  exact hname

section Rewritten

variable (db : Database) (name : String) (rows : Option (List Row))

theorem rewritten_cases : db.rewritten name rows = db ∨ ∃ tbl given, db.table? name = some tbl ∧
    rows = some given ∧ db.rewritten name rows = db.putTable (tbl.withRows given) := by
  cases rows with
  | none => exact .inl (rewritten_none db name)
  | some given =>
    cases ht : db.table? name with
    | none => exact .inl (by simp only [rewritten, ht])
    | some tbl => exact .inr ⟨tbl, given, rfl, rfl, rewritten_some ht given⟩

@[simp] theorem triggers_rewritten : (db.rewritten name rows).triggers = db.triggers := by
  rcases db.rewritten_cases name rows with h | ⟨tbl, given, -, -, h⟩ <;> rw [h]
  rfl

@[simp] theorem indexes_rewritten : (db.rewritten name rows).indexes = db.indexes := by
  rcases db.rewritten_cases name rows with h | ⟨tbl, given, -, -, h⟩ <;> rw [h]
  rfl

theorem table?_rewritten : (db.rewritten name rows).table? name =
    (db.table? name).map fun tbl => rows.elim tbl tbl.withRows := by
  cases ht : db.table? name with
  | none => cases rows <;> simp [rewritten, ht]
  | some tbl =>
    cases rows with
    | none => simpa using ht
    | some given =>
      rw [rewritten_some ht, table?_putTable ht]
      rfl

/-- Tables of other names are as they were. -/
theorem table?_rewritten_other {other : String} (h : sameName name other = false) :
    (db.rewritten name rows).table? other = db.table? other := by
  rcases db.rewritten_cases name rows with hr | ⟨tbl, given, ht, -, hr⟩
  · rw [hr]
  · have hname : sameName tbl.name other = false := by
      rw [sameName_comm, sameName_congr (sameName_of_table? ht), sameName_comm]
      exact h
    have hp : ((fun x : Table => sameName x.name other) ∘ fun x : Table =>
        if sameName x.name tbl.name then tbl.withRows given else x) =
        fun x : Table => sameName x.name other := by
      funext x
      simp only [Function.comp_apply]
      split
      · rename_i hx
        rw [sameName_comm x.name, sameName_congr hx, sameName_comm]
        rfl
      · rfl
    rw [hr]
    change (db.tables.map fun x : Table =>
      if sameName x.name tbl.name then tbl.withRows given else x).find? _ = _
    rw [List.find?_map, hp, table?]
    cases hf : db.tables.find? fun x => sameName x.name other with
    | none => rfl
    | some x =>
      have hx : sameName x.name tbl.name = false := by
        have hxo := sameName_of_table? hf
        rw [sameName_comm, sameName_congr hxo]
        exact hname
      simp [hx]

/-- New rows leave every table what it is. -/
theorem table?_rewritten_schema (other : String) :
    ((db.rewritten name rows).table? other).map (·.schema) = (db.table? other).map (·.schema) := by
  cases h : sameName name other with
  | false => rw [table?_rewritten_other db name rows h]
  | true =>
    have hsame : ∀ db : Database, db.table? other = db.table? name := by
      intro db
      simp only [table?, sameName_congr h]
    have hschema : (fun tbl : Table => (rows.elim tbl tbl.withRows).schema) = fun tbl => tbl.schema := by
      funext tbl
      cases rows <;> rfl
    rw [hsame, hsame, table?_rewritten, Option.map_map]
    exact congrArg (fun f => (db.table? name).map f) hschema

/-- New rows take no table away and add none. -/
theorem table?_rewritten_isSome (other : String) :
    ((db.rewritten name rows).table? other).isSome = (db.table? other).isSome := by
  have hsome := congrArg Option.isSome (table?_rewritten_schema db name rows other)
  rwa [Option.isSome_map, Option.isSome_map] at hsome

end Rewritten

/-- The same failure on two databases, or the same answer and the same rows written. -/
inductive Alike (name : String) (db db' : Database) {ε : Type} :
    Except ε (Database × α) → Except ε (Database × α) → Prop
  | failed (f : ε) : Alike name db db' (.error f) (.error f)
  | done (rows : Option (List Row)) (a : α) :
    Alike name db db' (.ok (db.rewritten name rows, a)) (.ok (db'.rewritten name rows, a))

section Alike

variable {ε δ : Type} {name : String} {db db' : Database} {r r' : Except ε (Database × α)}

theorem alike_unchanged (a : α) :
    Alike (ε := ε) name db db' (.ok (db, a)) (.ok (db', a)) := by
  simpa using (Alike.done none a : Alike (ε := ε) name db db' _ _)

theorem Alike.mapError (h : Alike name db db' r r') (f : ε → δ) :
    Alike name db db' (r.mapError f) (r'.mapError f) := by
  cases h with
  | failed e => exact .failed (f e)
  | done rows a => exact .done rows a

/-- An answer that is worked on further, with the database left alone. -/
theorem Alike.bind (h : Alike name db db' r r') (g : α → Except ε β) :
    Alike name db db' (r >>= fun p => (g p.2).map fun b => (p.1, b))
      (r' >>= fun p => (g p.2).map fun b => (p.1, b)) := by
  cases h with
  | failed e => exact .failed e
  | done rows a =>
    simp only [ok_bind]
    cases g a with
    | error e => exact .failed e
    | ok b => exact .done rows b

end Alike

section Rows

variable {name : String} {db db' : Database}

theorem alike_insert (h : db.view name = db'.view name) (given : Cells) (reported : List String)
    (now : String) :
    Alike name db db' (db.insert name given reported now) (db'.insert name given reported now) := by
  have htable := table?_of_view h
  unfold insert
  cases ht : db'.table? name with
  | none =>
    simp only [findTable, htable, ht]
    exact .failed _
  | some tbl =>
    rw [ht] at htable
    simp only [findTable, htable, ht, ok_bind]
    split
    · exact .failed _
    · split
      · exact .failed _
      · split
        · exact .failed _
        · have hdone : Alike (ε := Fault) name db db' _ _ := .done
            (some (tbl.rows ++ [tbl.fill now given])) (tbl.echo (tbl.fill now given) reported)
          rwa [rewritten_some htable, rewritten_some ht] at hdone

theorem alike_update (h : db.view name = db'.view name) (id : String) (given : Cells)
    (reported : List String) (now : String) :
    Alike name db db' (db.update name id given reported now)
      (db'.update name id given reported now) := by
  have htable := table?_of_view h
  unfold update
  cases ht : db'.table? name with
  | none =>
    simp only [findTable, htable, ht]
    exact .failed _
  | some tbl =>
    rw [ht] at htable
    have htouched : db.isTouched tbl = db'.isTouched tbl := by
      simpa [view, htable, ht] using h
    have hkept : ∀ old new, db.afterTrigger tbl now old new = db'.afterTrigger tbl now old new := by
      intro old new
      rw [afterTrigger, afterTrigger, htouched]
    simp only [findTable, htable, ht, ok_bind]
    split
    · exact .failed _
    · split
      · exact .failed _
      · exact alike_unchanged none
      · rename_i old _ _
        split
        · exact .failed _
        · have hdone : Alike (ε := Fault) name db db' _ _ := .done
            (some (tbl.rows.map fun row => if (tbl.cell row Table.idColumn).equals (.text id) then
              db'.afterTrigger tbl now old (tbl.change old given) else row))
            (some (tbl.echo (tbl.change old given) reported))
          rw [rewritten_some htable, rewritten_some ht] at hdone
          rw [hkept]
          exact hdone

theorem alike_delete (h : db.view name = db'.view name) (id : String) :
    Alike name db db' (db.delete name id) (db'.delete name id) := by
  have htable := table?_of_view h
  unfold delete
  cases ht : db'.table? name with
  | none =>
    simp only [findTable, htable, ht]
    exact .failed _
  | some tbl =>
    rw [ht] at htable
    simp only [findTable, htable, ht, ok_bind]
    have hdone : Alike (ε := Fault) name db db' _ _ := .done
      (some (tbl.rows.filter fun row => !(tbl.cell row Table.idColumn).equals (.text id)))
      (decide ((tbl.rows.filter fun row =>
        !(tbl.cell row Table.idColumn).equals (.text id)).length < tbl.rows.length))
    rwa [rewritten_some htable, rewritten_some ht] at hdone

theorem count_of_view (h : db.view name = db'.view name) (found : List Condition) :
    db.count name found = db'.count name found := by
  rw [count, count, findTable, findTable, table?_of_view h]

theorem page_of_view (h : db.view name = db'.view name) (columns : List String)
    (found : List Condition) (order : SortOrder) (limit offset : ℕ) :
    db.page name columns found order limit offset = db'.page name columns found order limit offset := by
  rw [page, page, findTable, findTable, table?_of_view h]

end Rows

/-- What is run on a database sees and writes the rows of one table only. -/
def Confined (name : String) (run : Database → Except Failure (Database × α)) : Prop :=
  ∀ db db', db.view name = db'.view name → Alike name db db' (run db) (run db')

end Database

namespace Store

section Records

variable {t : TableSchema}

theorem confined_insertRecord (given : Record) (stamp : String) :
    Confined t.denotedName (insertRecord t given stamp) := by
  intro db db' h
  unfold insertRecord
  cases (t.cells given).mapError (·.failure t.name "create" (t.insertText given)) with
  | error f => exact .failed f
  | ok cells =>
    exact ((alike_insert h cells t.denotedColumns stamp).mapError _).bind t.record

theorem confined_changeRecord (id : String) (given : Record) (stamp : String) :
    Confined t.denotedName (changeRecord t id given stamp) := by
  intro db db' h
  unfold changeRecord
  cases (t.cells given).mapError (·.failure t.name "update" "") with
  | error f => exact .failed f
  | ok cells =>
    exact ((alike_update h id cells t.denotedColumns stamp).mapError _).bind fun row =>
      row.mapM t.record

theorem readPage_of_view {db db' : Database} (h : db.view t.denotedName = db'.view t.denotedName)
    (found : List Condition) (order : SortOrder) (limit offset : ℤ) :
    readPage t found order limit offset db = readPage t found order limit offset db' := by
  simp only [readPage, count_of_view h, page_of_view h]

end Records

end Store

/-! ## Plans -/

/-- What is left of a call once the table of its entity is there. -/
inductive Plan where
  | answer (a : Answer) (clock : Clock)
  | transact (operation : String) (clock : Clock)
    (run : Database → Except Failure (Database × Answer))

namespace Plan

/-- Runs what is told further of the answer of a transaction. -/
def telling {α : Type} (tell : α → Answer) (run : Database → Except Failure (Database × α))
    (db : Database) : Except Failure (Database × Answer) :=
  (run db).map fun p => (p.1, tell p.2)

theorem confined_telling {α : Type} {name : String} {tell : α → Answer}
    {run : Database → Except Failure (Database × α)} (h : Confined name run) :
    Confined name (telling tell run) := by
  intro db db' hview
  have halike := h db db' hview
  unfold telling
  generalize run db = r at halike ⊢
  generalize run db' = r' at halike ⊢
  cases halike with
  | failed f => exact .failed f
  | done rows a => exact .done rows (tell a)

/-- Carries out a plan for the table of an entity. -/
def follow (t : TableSchema) : Plan → Action Answer
  | answer a clock => do
    modify fun s => { s with clock := clock }
    return a
  | transact operation clock run => do
    modify fun s => { s with clock := clock }
    Store.transaction t.name operation run

end Plan

namespace Call

open Store

variable (e : Registered) (paging : Paging) (clock : Clock)

/-- The plan for a page, and for what is told of it. -/
def pagePlan (request : PageRequest) (tell : Page → Answer) : Except Failure Plan := do
  let (limit, offset) ← checkPage paging request.limit request.offset
  let sortColumn ← column e.schema request.orderBy
  let dir ← direction request.direction
  match ← conditions e.descriptor e.schema request.filters with
  | none => return .answer (tell ⟨[], 0, limit, offset, false⟩) clock
  | some found =>
    return .transact "get" clock <| Plan.telling tell fun db =>
      (readPage e.schema found ⟨denoted sortColumn.name, dir⟩ limit offset db).map fun p =>
        (db, ⟨p.2, p.1, limit, offset, offset + p.2.length < p.1⟩)

/-- What a call comes to where the table of its entity is there. -/
def plan : Call → Except Failure Plan
  | create data => do
    let values ← validated e .full data
    let (now, later) ← clock.read
    let (id, last) := later.issue
    return .transact "create" last <| Plan.telling .created <|
      insertRecord e.schema (newRecord id now values) last.stamp
  | update id data => do
    let values ← validated e .patch data
    match id.idText? with
    | none => return .answer (.updated none) clock
    | some k =>
      let (now, later) ← clock.read
      return .transact "update" later <| Plan.telling .updated <|
        changeRecord e.schema k (changedValues now values) later.stamp
  | delete id =>
    match id.idText? with
    | none => return .answer (.deleted false) clock
    | some k =>
      return .transact "delete" clock <| Plan.telling .deleted fun db =>
        asOperation e.schema.name "delete" (db.delete e.schema.denotedName k)
  | get request => pagePlan e paging clock request .page
  | getById id =>
    pagePlan e paging clock { filters := .mapping [("id", id)], limit := .int 1 } fun p =>
      .found p.records.head?
  | count filters => do
    match ← conditions e.descriptor e.schema filters with
    | none => return .answer (.counted 0) clock
    | some found =>
      return .transact "count" clock <| Plan.telling .counted fun db =>
        (asOperation e.schema.name "count" (db.count e.schema.denotedName found)).map fun n => (db, n)

variable {e paging clock}

/-- What the transaction of a call can run on the database. -/
inductive Runs (t : TableSchema) : (Database → Except Failure (Database × Answer)) → Prop
  | insert (given : Record) (stamp : String) :
    Runs t (Plan.telling .created (insertRecord t given stamp))
  | change (k : String) (given : Record) (stamp : String) :
    Runs t (Plan.telling .updated (changeRecord t k given stamp))
  | remove (k : String) :
    Runs t (Plan.telling .deleted fun db => asOperation t.name "delete" (db.delete t.denotedName k))
  | page (found : List Condition) (order : SortOrder) (limit offset : ℤ) (tell : Page → Answer) :
    Runs t (Plan.telling tell fun db => (readPage t found order limit offset db).map fun p =>
      (db, ⟨p.2, p.1, limit, offset, offset + p.2.length < p.1⟩))
  | count (found : List Condition) :
    Runs t (Plan.telling .counted fun db =>
      (asOperation t.name "count" (db.count t.denotedName found)).map fun n => (db, n))

section Transactions

variable {operation : String} {later : Clock} {run : Database → Except Failure (Database × Answer)}

theorem runs_of_pagePlan {request : PageRequest} {tell : Page → Answer}
    (h : pagePlan e paging clock request tell = .ok (.transact operation later run)) :
    Runs e.schema run := by
  obtain ⟨⟨limit, offset⟩, -, h⟩ := bind_ok.mp h
  obtain ⟨sortColumn, -, h⟩ := bind_ok.mp h
  obtain ⟨dir, -, h⟩ := bind_ok.mp h
  obtain ⟨found?, -, h⟩ := bind_ok.mp h
  cases found? with
  | none => cases h
  | some found =>
    cases h
    exact .page found _ limit offset tell

theorem runs_of_plan {call : Call}
    (h : call.plan e paging clock = .ok (.transact operation later run)) : Runs e.schema run := by
  cases call with
  | create data =>
    obtain ⟨values, -, h⟩ := bind_ok.mp h
    obtain ⟨⟨now, later⟩, -, h⟩ := bind_ok.mp h
    cases h
    exact .insert _ _
  | update id data =>
    obtain ⟨values, -, h⟩ := bind_ok.mp h
    cases hk : id.idText? with
    | none =>
      rw [hk] at h
      cases h
    | some k =>
      rw [hk] at h
      obtain ⟨⟨now, later⟩, -, h⟩ := bind_ok.mp h
      cases h
      exact .change k _ _
  | delete id =>
    cases hk : id.idText? with
    | none => simp [plan, hk, pure, Except.pure] at h
    | some k =>
      simp only [plan, hk] at h
      cases h
      exact .remove k
  | get request =>
    rw [plan] at h
    exact runs_of_pagePlan h
  | getById id =>
    rw [plan] at h
    exact runs_of_pagePlan h
  | count filters =>
    obtain ⟨found?, -, h⟩ := bind_ok.mp h
    cases found? with
    | none => cases h
    | some found =>
      cases h
      exact .count found

end Transactions

/-- Every transaction of a call keeps to the table of the entity. -/
theorem Runs.confined {t : TableSchema} {run : Database → Except Failure (Database × Answer)}
    (h : Runs t run) : Confined t.denotedName run := by
  cases h with
  | insert given stamp => exact Plan.confined_telling (confined_insertRecord given stamp)
  | change k given stamp => exact Plan.confined_telling (confined_changeRecord k given stamp)
  | remove k => exact Plan.confined_telling fun db db' hview => (alike_delete hview k).mapError _
  | page found order limit offset tell =>
    refine Plan.confined_telling fun db db' hview => ?_
    rw [readPage_of_view hview]
    cases readPage t found order limit offset db' with
    | error f => exact .failed f
    | ok p => exact alike_unchanged _
  | count found =>
    refine Plan.confined_telling fun db db' hview => ?_
    rw [count_of_view hview]
    cases asOperation t.name "count" (db'.count t.denotedName found) with
    | error f => exact .failed f
    | ok n => exact alike_unchanged n

/-! ## Calls follow their plans -/

variable {s ready : Store} {t : TableSchema}

theorem on_follow_transact (operation : String) (c : Clock)
    (run : Database → Except Failure (Database × Answer)) (s : Store) :
    ((Plan.transact operation c run).follow t).on s =
      (transaction t.name operation run).on { s with clock := c } := rfl

/-- What is told of the answer of a transaction is told by the transaction. -/
theorem on_transaction_telling {α : Type} (tell : α → Answer) (entity operation : String)
    (run : Database → Except Failure (Database × α)) (s : Store) :
    (transaction entity operation (Plan.telling tell run)).on s =
      (tell <$> transaction entity operation run).on s := by
  rw [Action.on_map]
  unfold transaction
  simp only [Action.on_bind, engine_on, Action.on_get]
  cases s.link.engineTarget s.files with
  | error f => rfl
  | ok u =>
    simp only
    cases s.opened.databaseAt (s.link.location u) with
    | error fault => rfl
    | ok db =>
      simp only [Action.on_bind, Action.on_ofExcept, Plan.telling]
      cases run db with
      | error f => rfl
      | ok p => rfl

/-- What a plan comes to on a store, or the refusal where there is none. -/
def outcome (t : TableSchema) (s : Store) : Except Failure Plan → Except Failure Answer × Store
  | .error f => (.error f, s)
  | .ok plan => (plan.follow t).on s

@[simp] theorem outcome_error (f : Failure) : outcome t s (.error f) = (.error f, s) := rfl

@[simp] theorem outcome_ok (plan : Plan) : outcome t s (.ok plan) = (plan.follow t).on s := rfl

theorem on_get_ready {request : PageRequest} (tell : Page → Answer)
    (he : (ensure e).on s = (.ok e.schema, ready)) :
    (tell <$> Store.get e request).on s =
      outcome e.schema ready (pagePlan e ready.paging ready.clock request tell) := by
  rw [Action.on_map]
  unfold Store.get pagePlan
  rw [Action.on_bind_ok he]
  simp only [Action.on_bind, Action.on_get, Action.on_ofExcept]
  cases checkPage ready.paging request.limit request.offset with
  | error f => rfl
  | ok p =>
    cases column e.schema request.orderBy with
    | error f => rfl
    | ok c =>
      cases direction request.direction with
      | error f => rfl
      | ok d =>
        cases conditions e.descriptor e.schema request.filters with
        | error f => rfl
        | ok found? =>
          cases found? with
          | none => rfl
          | some found => exact ((on_transaction_telling tell _ _ _ _).trans (Action.on_map _ _ _)).symm

/-- A call whose table is there follows its plan. -/
theorem perform_ready (call : Call) (he : (ensure e).on s = (.ok t, ready)) :
    (call.perform e).on s = outcome e.schema ready (call.plan e ready.paging ready.clock) := by
  obtain rfl := (ensure_spec he).2 t rfl
  cases call with
  | create data =>
    rw [perform, Action.on_map, plan]
    unfold Store.create
    rw [Action.on_bind_ok he]
    simp only [Action.on_bind, validValues_on, readClock_on, issueId_on, Action.on_get]
    cases validated e .full data with
    | error f => rfl
    | ok values =>
      simp only [ok_bind]
      cases ready.clock.read with
      | error f => rfl
      | ok p => exact ((on_transaction_telling .created _ _ _ _).trans (Action.on_map _ _ _)).symm
  | update id data =>
    rw [perform, Action.on_map, plan]
    unfold Store.update
    rw [Action.on_bind_ok he]
    simp only [Action.on_bind, validValues_on]
    cases validated e .patch data with
    | error f => rfl
    | ok values =>
      simp only [ok_bind]
      cases id.idText? with
      | none => rfl
      | some k =>
        simp only [Action.on_bind, readClock_on, Action.on_get]
        cases ready.clock.read with
        | error f => rfl
        | ok p => exact ((on_transaction_telling .updated _ _ _ _).trans (Action.on_map _ _ _)).symm
  | delete id =>
    rw [perform, Action.on_map, plan]
    unfold Store.delete
    rw [Action.on_bind_ok he]
    cases id.idText? with
    | none => rfl
    | some k => exact ((on_transaction_telling .deleted _ _ _ _).trans (Action.on_map _ _ _)).symm
  | get request => exact on_get_ready _ he
  | getById id =>
    have hfound : (perform e (.getById id)) = (fun p : Page => Answer.found p.records.head?) <$>
        Store.get e { filters := .mapping [("id", id)], limit := .int 1 } := by
      rw [perform, Store.getById, ← bind_pure_comp, ← bind_pure_comp, bind_assoc]
      simp only [pure_bind]
    rw [hfound]
    exact on_get_ready _ he
  | count filters =>
    rw [perform, Action.on_map, plan]
    unfold Store.count
    rw [Action.on_bind_ok he]
    simp only [Action.on_bind, Action.on_ofExcept]
    cases conditions e.descriptor e.schema filters with
    | error f => rfl
    | ok found? =>
      cases found? with
      | none => rfl
      | some found => exact ((on_transaction_telling .counted _ _ _ _).trans (Action.on_map _ _ _)).symm

/-- A call whose table cannot be ensured fails for that. -/
theorem perform_unready {f : Failure} (call : Call) (he : (ensure e).on s = (.error f, ready)) :
    (call.perform e).on s = (.error f, ready) := by
  have hget : ∀ request, (Store.get e request).on s = (.error f, ready) :=
    fun request => Action.on_bind_error he
  cases call with
  | create data | update id data | delete id | count filters =>
    rw [perform, Action.on_map]
    simp only [Store.create, Store.update, Store.delete, Store.count, Action.on_bind_error he]
    rfl
  | get request =>
    rw [perform, Action.on_map, hget]
    rfl
  | getById id =>
    rw [perform, Action.on_map, Store.getById, Action.on_bind_error (hget _)]
    rfl

end Call

end EntityStore
