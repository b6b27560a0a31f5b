import EntityStore.Proofs.Applying
import EntityStore.Proofs.Planning

/-! # What is told of a missing table

A call whose table is not there is told so by the database. Nothing else that can go wrong is told in
the same words, so a call fails in this way exactly if the entity counts as applied and has no table.
-/
namespace EntityStore

open Database

/-! ## Steps and their failures -/

section Steps

variable {α β ε δ : Type} {P : ε → Prop} {Q : δ → Prop}

/-- Whatever a step fails with has a property. -/
def FailsOnly (P : ε → Prop) (x : Except ε α) : Prop := ∀ f, x = .error f → P f

theorem failsOnly_ok (a : α) : FailsOnly P (.ok a : Except ε α) := by
  rintro f ⟨⟩

theorem failsOnly_error {f : ε} (h : P f) : FailsOnly P (.error f : Except ε α) := by
  rintro _ ⟨⟩
  exact h

theorem FailsOnly.bind {x : Except ε α} {f : α → Except ε β} (hx : FailsOnly P x)
    (hf : ∀ a, x = .ok a → FailsOnly P (f a)) : FailsOnly P (x >>= f) := by
  cases x with
  | error e => exact failsOnly_error (hx e rfl)
  | ok a => exact hf a rfl

theorem FailsOnly.map {x : Except ε α} (hx : FailsOnly P x) (f : α → β) :
    FailsOnly P (x.map f) := by
  cases x with
  | error e => exact failsOnly_error (hx e rfl)
  | ok a => exact failsOnly_ok (f a)

theorem FailsOnly.mapError {x : Except ε α} {g : ε → δ} (hx : FailsOnly P x)
    (hg : ∀ f, P f → Q (g f)) : FailsOnly Q (x.mapError g) := by
  cases x with
  | error e => exact failsOnly_error (hg e (hx e rfl))
  | ok a => exact failsOnly_ok a

theorem FailsOnly.imp {Q : ε → Prop} {x : Except ε α} (hx : FailsOnly P x) (h : ∀ f, P f → Q f) :
    FailsOnly Q x := fun f hf => h f (hx f hf)

theorem failsOnly_mapM {f : α → Except ε β} {l : List α} (h : ∀ a ∈ l, FailsOnly P (f a)) :
    FailsOnly P (l.mapM f) := by
  intro e he
  obtain ⟨a, ha, hf⟩ := mapM_error he
  exact h a ha e hf

end Steps

/-! ## Words -/

namespace Database.Fault

/-- The message that a fault came with. -/
def message : Fault → String
  | poolTimeout m | client m | driver _ m _ _ => m

/-- A fault that says of no table that it is missing. -/
def IsOther (fault : Fault) : Prop := ∀ table, fault.message ≠ (noSuchTable table).message

end Database.Fault

namespace Failure

/-- A failure that tells of a table which is not there. -/
def TellsMissing (f : Failure) : Prop :=
  ∃ table entity operation, f = (noSuchTable table).failure entity operation

end Failure

namespace Database.Fault

variable {fault : Fault} {entity operation entity' operation' m : String}

/-- The words before the message of a fault, by the kind of failure that it is told as. -/
def opening (entity operation : String) : NotedKind → String
  | .timeout => "Statement timed out during " ++ operation ++ ": "
  | .connection => "Lost database connection during " ++ operation ++ ": "
  | _ => "Failed to " ++ operation ++ " '" ++ entity ++ "': "

/-- How a fault is told: a repeated value and a wait for a connection in their own ways, and all others
with the message after words that hang on the operation. -/
theorem failure_words (fault : Fault) (entity operation : String) :
    (∃ field, fault.failure entity operation = .uniqueViolation entity field fault.message) ∨
    fault.failure entity operation =
      .noted .timeout ("Timed out waiting for a database connection: " ++ fault.message)
        [("entity_name", .text entity), ("operation", .text operation)] ∨
    ∃ kind, fault.failure entity operation =
      .noted kind (opening entity operation kind ++ fault.message)
        [("entity_name", .text entity), ("operation", .text operation)] := by
  cases fault with
  | poolTimeout message => exact .inr (.inl rfl)
  | client message => exact .inr (.inr ⟨.storage, rfl⟩)
  | driver cls message state lost =>
    simp only [failure]
    split
    · exact .inl ⟨_, rfl⟩
    · refine .inr (.inr ?_)
      split
      · exact ⟨.timeout, rfl⟩
      · split
        · exact ⟨.connection, rfl⟩
        · exact ⟨.storage, rfl⟩

theorem failure_operational (m entity operation : String) : ∃ kind,
    (Fault.operational m).failure entity operation =
      .noted kind (opening entity operation kind ++ m)
        [("entity_name", .text entity), ("operation", .text operation)] := by
  simp only [Fault.operational, failure]
  split
  · rename_i h
    cases h.1
  · split
    · exact ⟨.timeout, rfl⟩
    · split
      · exact ⟨.connection, rfl⟩
      · exact ⟨.storage, rfl⟩

theorem opening_timeout :
    opening entity operation .timeout = "Statement timed out during " ++ operation ++ ": " := rfl

theorem waited_ne_opening (message : String) :
    "Timed out waiting for a database connection: " ++ message ≠
      opening entity operation .timeout ++ m := by
  intro h
  rw [opening_timeout] at h
  have hletter := congrArg (fun text => text.toList.head?) h
  simp [String.toList_append] at hletter

/-- The message of a fault can be read off what is told of it. -/
theorem message_of_failure
    (h : fault.failure entity operation = (Fault.operational m).failure entity' operation') :
    fault.message = m := by
  obtain ⟨kind', hright⟩ := failure_operational m entity' operation'
  rw [hright] at h
  rcases failure_words fault entity operation with ⟨field, hleft⟩ | hleft | ⟨kind, hleft⟩
  · rw [hleft] at h
    cases h
  · rw [hleft] at h
    obtain ⟨hkind, htext, -⟩ := Failure.noted.inj h
    rw [← hkind] at htext
    exact absurd htext (waited_ne_opening _)
  · rw [hleft] at h
    obtain ⟨rfl, htext, hcontext⟩ := Failure.noted.inj h
    obtain ⟨rfl, rfl⟩ : entity = entity' ∧ operation = operation' := by simpa using hcontext
    exact (String.append_right_inj _).mp htext

theorem IsOther.failure (h : fault.IsOther) (entity operation : String) :
    ¬ (fault.failure entity operation).TellsMissing := by
  rintro ⟨table, entity', operation', heq⟩
  exact h table (message_of_failure heq)

theorem isOther_of_letters (h : ¬ "no such table: ".toList <+: fault.message.toList) :
    fault.IsOther := by
  intro table heq
  refine h ?_
  rw [heq]
  exact ⟨table.toList, by simp [noSuchTable, Fault.operational, message]⟩

theorem isOther_noSuchColumn (name : String) : (noSuchColumn name).IsOther :=
  isOther_of_letters (by simp [noSuchColumn, Fault.operational, message])

end Database.Fault

namespace Failure

variable {f : Failure}

/-- What is told of a missing table names an entity and an operation. -/
theorem TellsMissing.context (h : f.TellsMissing) :
    f.context.map (·.1) = ["entity_name", "operation"] := by
  obtain ⟨table, entity, operation, rfl⟩ := h
  obtain ⟨kind, hkind⟩ := Database.Fault.failure_operational ("no such table: " ++ table) entity operation
  rw [Database.noSuchTable, hkind]
  rfl

theorem not_tellsMissing (h : f.context.map (·.1) ≠ ["entity_name", "operation"]) :
    ¬ f.TellsMissing := fun hf => h hf.context

/-- A failure that is told by a text alone. -/
def IsPlain (f : Failure) : Prop := ∃ kind message, f = .plain kind message

theorem IsPlain.not_tellsMissing (h : f.IsPlain) : ¬ f.TellsMissing := by
  obtain ⟨kind, message, rfl⟩ := h
  exact Failure.not_tellsMissing (by simp [context])

end Failure

/-! ## Rows of a table that is there -/

namespace Database

variable {db : Database} {tbl : Table} {name : String}

theorem isOther_of_report {reported : List String} {fault : Fault}
    (h : tbl.reportFault? reported = some fault) : fault.IsOther := by
  obtain ⟨column, -, rfl⟩ := Option.map_eq_some_iff.mp h
  exact Fault.isOther_noSuchColumn column

theorem isOther_of_read {asked : String} {columns : List String} {fault : Fault}
    (h : tbl.readFault? asked columns = some fault) : fault.IsOther := by
  obtain ⟨column, -, rfl⟩ := Option.map_eq_some_iff.mp h
  exact Fault.isOther_noSuchColumn _

theorem isOther_of_constraint {others : List Row} {row : Row} {fault : Fault}
    (h : tbl.constraintFault? others row = some fault) : fault.IsOther := by
  unfold Table.constraintFault? at h
  split at h
  · cases h
    exact Fault.isOther_of_letters (by simp [Fault.integrity, Fault.message])
  · obtain ⟨column, -, rfl⟩ := Option.map_eq_some_iff.mp h
    exact Fault.isOther_of_letters (by simp [Fault.integrity, Fault.message, uniqueMarker])

theorem failsOnly_insert (h : db.table? name = some tbl) (given : Cells) (reported : List String)
    (now : String) : FailsOnly Fault.IsOther (db.insert name given reported now) := by
  unfold insert
  simp only [findTable_eq h, ok_bind]
  split
  · exact failsOnly_error (Fault.isOther_of_letters (by simp [Fault.operational, Fault.message]))
  · split
    · rename_i hreport
      exact failsOnly_error (isOther_of_report hreport)
    · split
      · rename_i hconstraint
        exact failsOnly_error (isOther_of_constraint hconstraint)
      · exact failsOnly_ok _

theorem failsOnly_update (h : db.table? name = some tbl) (id : String) (given : Cells)
    (reported : List String) (now : String) :
    FailsOnly Fault.IsOther (db.update name id given reported now) := by
  unfold update
  simp only [findTable_eq h, ok_bind]
  split
  · exact failsOnly_error (Fault.isOther_noSuchColumn _)
  · split
    · rename_i fault hreport
      exact failsOnly_error (isOther_of_report hreport)
    · exact failsOnly_ok _
    · split
      · rename_i hconstraint
        exact failsOnly_error (isOther_of_constraint hconstraint)
      · exact failsOnly_ok _

theorem failsOnly_delete (h : db.table? name = some tbl) (id : String) :
    FailsOnly Fault.IsOther (db.delete name id) := by
  unfold delete
  simp only [findTable_eq h, ok_bind]
  exact failsOnly_ok _

theorem failsOnly_count (h : db.table? name = some tbl) (found : List Condition) :
    FailsOnly Fault.IsOther (db.count name found) := by
  unfold count
  simp only [findTable_eq h, ok_bind]
  split
  · rename_i hread
    exact failsOnly_error (isOther_of_read hread)
  · exact failsOnly_ok _

theorem failsOnly_page (h : db.table? name = some tbl) (columns : List String)
    (found : List Condition) (order : SortOrder) (limit offset : ℕ) :
    FailsOnly Fault.IsOther (db.page name columns found order limit offset) := by
  unfold page
  simp only [findTable_eq h, ok_bind]
  split
  · rename_i hread
    exact failsOnly_error (isOther_of_read hread)
  · exact failsOnly_ok _

end Database

/-! ## Records of a table that is there -/

section Records

variable {α : Type} {t : TableSchema} {db : Database} {tbl : Table} {entity operation : String}

/-- What a step fails with tells of no missing table. -/
abbrev FindsTable (x : Except Failure α) : Prop := FailsOnly (¬ ·.TellsMissing) x

theorem findsTable_asOperation {r : Except Fault α} (h : FailsOnly Fault.IsOther r) :
    FindsTable (Store.asOperation entity operation r) :=
  h.mapError fun _ hfault => hfault.failure entity operation

theorem bindFault_not_tellsMissing (fault : BindFault) (statement : String) :
    ¬ (fault.failure entity operation statement).TellsMissing := by
  have hclient : ∀ message : String, ¬ "no such table: ".toList <+: message.toList →
      ¬ ((Fault.client message).failure entity operation).TellsMissing := by
    intro message h
    have hother : (Fault.client message).IsOther := Fault.isOther_of_letters h
    exact hother.failure entity operation
  cases fault with
  | hugeInteger => exact Failure.not_tellsMissing (by simp [BindFault.failure, Failure.context])
  | notDate | notTimestamp | hugeNumber => exact hclient _ (by simp [BindFault.message])

theorem findsTable_record (cells : List Cell) : FindsTable (t.record cells) := by
  refine failsOnly_mapM ?_
  rintro ⟨c, cell⟩ -
  simp only
  split
  · exact failsOnly_ok _
  · rename_i fault _
    refine failsOnly_error (Failure.not_tellsMissing ?_)
    cases fault <;> simp [ReadFault.failure, Failure.context]

theorem findsTable_cells (given : Record) (statement : String) :
    FindsTable ((t.cells given).mapError (·.failure entity operation statement)) := by
  have hany : FailsOnly (fun _ : BindFault => True) (t.cells given) := fun _ _ => trivial
  exact hany.mapError fun fault _ => bindFault_not_tellsMissing fault statement

variable (h : db.table? t.denotedName = some tbl)

include h

theorem findsTable_insertRecord (given : Record) (stamp : String) :
    FindsTable (Store.insertRecord t given stamp db) := by
  refine (findsTable_cells given _).bind fun cells _ => ?_
  refine (findsTable_asOperation (failsOnly_insert h cells _ stamp)).bind fun p _ => ?_
  exact (findsTable_record p.2).bind fun record _ => failsOnly_ok _

theorem findsTable_changeRecord (id : String) (given : Record) (stamp : String) :
    FindsTable (Store.changeRecord t id given stamp db) := by
  refine (findsTable_cells given _).bind fun cells _ => ?_
  refine (findsTable_asOperation (failsOnly_update h id cells _ stamp)).bind fun p _ => ?_
  obtain ⟨after, row⟩ := p
  cases row with
  | none => exact failsOnly_ok _
  | some row => exact ((findsTable_record row).map some).bind fun record _ => failsOnly_ok _

theorem findsTable_readPage (found : List Condition) (order : SortOrder) (limit offset : ℤ) :
    FindsTable (Store.readPage t found order limit offset db) := by
  refine (findsTable_asOperation (failsOnly_count h found)).bind fun total _ => ?_
  split
  · exact failsOnly_error (Failure.not_tellsMissing (by simp [Failure.context]))
  · refine (findsTable_asOperation (failsOnly_page h _ found order _ _)).bind fun rows _ => ?_
    exact (failsOnly_mapM fun row _ => findsTable_record row).bind fun records _ => failsOnly_ok _

end Records

/-! ## Plans -/

section Plans

variable {e : Registered} {paging : Paging} {clock : Clock}

theorem escape_plain (escape : Escape) : escape.failure.IsPlain := by
  cases escape with
  | predicate how => cases how <;> exact ⟨_, _, rfl⟩
  | unorderedBound | outOfCalendar => exact ⟨_, _, rfl⟩

theorem failsPlainly_escape {α : Type} (x : Except Escape α) :
    FailsOnly Failure.IsPlain (x.mapError Escape.failure) := by
  have hany : FailsOnly (fun _ : Escape => True) x := fun _ _ => trivial
  exact hany.mapError fun escape _ => escape_plain escape

theorem findsTable_validated (mode : PayloadMode) (data : Value) :
    FindsTable (Store.validated e mode data) := by
  refine ((failsPlainly_escape _).imp fun _ hf => hf.not_tellsMissing).bind fun v _ => ?_
  unfold Validator.require
  split
  · exact failsOnly_error (escape_plain _).not_tellsMissing
  · exact failsOnly_error (Failure.not_tellsMissing (by simp [Failure.context]))
  · exact failsOnly_ok _

theorem findsTable_read : FindsTable clock.read := by
  unfold Clock.read Clock.advance
  split
  · exact failsOnly_ok _
  · exact failsOnly_error (Failure.not_tellsMissing (by simp [Clock.beyondCalendar, Failure.context]))

theorem findsTable_column (t : TableSchema) (name : Value) : FindsTable (Store.column t name) := by
  unfold Store.column
  simp only
  split
  · exact failsOnly_ok _
  · exact failsOnly_error (Failure.not_tellsMissing (by simp [Failure.context]))

/-- The check of a filter value that has no answer fails with a text alone. -/
theorem failsPlainly_sought (d : Descriptor) (name : String) (v : Value) :
    FailsOnly Failure.IsPlain (Store.sought d name v) := by
  unfold Store.sought
  split
  · split
    · exact failsOnly_ok _
    · exact failsOnly_ok _
  · split
    · unfold Store.soughtTime
      simp only
      split
      · exact failsOnly_ok _
      · split
        · exact failsOnly_ok _
        · exact failsOnly_error ⟨_, _, rfl⟩
    · refine (failsPlainly_escape _).bind fun validator _ => ?_
      refine (failsPlainly_escape _).bind fun checked _ => ?_
      cases checked with
      | error violations => exact failsOnly_ok _
      | ok values =>
        simp only
        split
        · exact failsOnly_ok _
        · exact failsOnly_ok _

theorem findsTable_condition (d : Descriptor) (t : TableSchema) (filter : String × Value) :
    FindsTable (Store.condition d t filter) := by
  refine (findsTable_column t _).bind fun c _ => ?_
  simp only
  split
  · exact failsOnly_ok _
  · have hsought := (failsPlainly_sought d c.name filter.2).imp fun _ hf => hf.not_tellsMissing
    refine hsought.bind fun sought _ => ?_
    cases sought with
    | impossible => exact failsOnly_ok _
    | value v =>
      simp only
      split
      · exact failsOnly_ok _
      · rename_i fault _
        exact failsOnly_error (bindFault_not_tellsMissing fault "")

theorem findsTable_conditionsOf (d : Descriptor) (t : TableSchema) (filters : List (String × Value)) :
    FindsTable (Store.conditionsOf d t filters) := by
  induction filters with
  | nil => exact failsOnly_ok _
  | cons filter rest ih =>
    refine (findsTable_condition d t filter).bind fun c? _ => ?_
    cases c? with
    | none => exact failsOnly_ok _
    | some c => exact ih.bind fun more _ => failsOnly_ok _

theorem findsTable_conditions (d : Descriptor) (t : TableSchema) (filters : Value) :
    FindsTable (Store.conditions d t filters) := by
  have hentries : FindsTable (Store.filterEntries filters) := by
    unfold Store.filterEntries
    split
    · exact failsOnly_ok _
    · split
      · exact failsOnly_ok _
      · exact failsOnly_error (Failure.not_tellsMissing (by simp [Failure.context]))
  exact hentries.bind fun entries _ => findsTable_conditionsOf d t entries

theorem findsTable_checkPage (limit offset : Value) :
    FindsTable (Store.checkPage paging limit offset) := by
  unfold Store.checkPage
  simp only
  split
  · exact failsOnly_error (Failure.not_tellsMissing (by simp [Store.queryFailure, Failure.context]))
  · split
    · exact failsOnly_error (Failure.not_tellsMissing (by simp [Store.queryFailure, Failure.context]))
    · split
      · exact failsOnly_ok _
      · exact failsOnly_error
          (Failure.not_tellsMissing (by simp [Store.queryFailure, Failure.context]))

theorem findsTable_direction (v : Value) : FindsTable (Store.direction v) := by
  unfold Store.direction
  split
  · exact failsOnly_ok _
  · exact failsOnly_error (Failure.not_tellsMissing (by simp [Store.queryFailure, Failure.context]))

theorem findsTable_pagePlan (request : PageRequest) (tell : Page → Answer) :
    FindsTable (Call.pagePlan e paging clock request tell) := by
  refine (findsTable_checkPage _ _).bind fun size _ => ?_
  refine (findsTable_column _ _).bind fun sortColumn _ => ?_
  refine (findsTable_direction _).bind fun dir _ => ?_
  refine (findsTable_conditions _ _ _).bind fun found? _ => ?_
  cases found? with
  | none => exact failsOnly_ok _
  | some found => exact failsOnly_ok _

theorem findsTable_plan (call : Call) : FindsTable (call.plan e paging clock) := by
  cases call with
  | create data =>
    refine (findsTable_validated .full data).bind fun values _ => ?_
    exact findsTable_read.bind fun p _ => failsOnly_ok _
  | update id data =>
    refine (findsTable_validated .patch data).bind fun values _ => ?_
    cases id.idText? with
    | none => exact failsOnly_ok _
    | some k => exact findsTable_read.bind fun p _ => failsOnly_ok _
  | delete id =>
    rw [Call.plan]
    cases id.idText? with
    | none => exact failsOnly_ok _
    | some k => exact failsOnly_ok _
  | get request =>
    rw [Call.plan]
    exact findsTable_pagePlan request .page
  | getById id =>
    rw [Call.plan]
    exact findsTable_pagePlan _ _
  | count filters =>
    refine (findsTable_conditions _ _ filters).bind fun found? _ => ?_
    cases found? with
    | none => exact failsOnly_ok _
    | some found => exact failsOnly_ok _

/-- The transaction of a call, on a database that has the table. -/
theorem findsTable_runs {t : TableSchema} {run : Database → Except Failure (Database × Answer)}
    {db : Database} {tbl : Table} (h : db.table? t.denotedName = some tbl)
    (hrun : Call.Runs t run) : FindsTable (run db) := by
  cases hrun with
  | insert given stamp => exact (findsTable_insertRecord h given stamp).map _
  | change k given stamp => exact (findsTable_changeRecord h k given stamp).map _
  | remove k => exact (findsTable_asOperation (failsOnly_delete h k)).map _
  | page found order limit offset tell =>
    exact ((findsTable_readPage h found order limit offset).map _).map _
  | count found => exact ((findsTable_asOperation (failsOnly_count h found)).map _).map _

end Plans

/-! ## Calls -/

namespace Store

variable {e : Registered} {s s' : Store} {db : Database}

theorem findsTable_target (files : Files) (settings : Settings) :
    FindsTable (settings.target files) := by
  have hpassword : FindsTable (settings.password files) := by
    unfold Settings.password
    split
    · exact failsOnly_ok _
    · split
      · exact failsOnly_ok _
      · exact failsOnly_error (Failure.not_tellsMissing (by simp [Failure.context]))
      · exact failsOnly_error (Failure.not_tellsMissing (by simp [Failure.context]))
  unfold Settings.target Settings.targetWith
  split
  · split
    · exact failsOnly_ok _
    · exact failsOnly_error (Failure.not_tellsMissing (by simp [Failure.context]))
  · exact hpassword.map _

/-- What a property of failures must cover to hold of every engine that cannot be made. -/
theorem failsOnly_engineTarget {P : Failure → Prop} {link : Link} {files : Files}
    (htarget : FailsOnly P (link.settings.target files))
    (hfailed : ∀ reason, P (.noted .connection ("Failed to create database engine: " ++ reason) [])) :
    FailsOnly P (link.engineTarget files) := by
  unfold Link.engineTarget
  simp only
  split
  · exact failsOnly_error (hfailed _)
  · rename_i f _ hf
    exact failsOnly_error (htarget f hf)
  · split
    · exact failsOnly_error (hfailed _)
    · split
      · exact failsOnly_error (hfailed _)
      · exact failsOnly_error (hfailed _)
      · exact failsOnly_ok _

/-- What a property of failures must cover to hold wherever a table cannot be had. -/
theorem failsOnly_ensure {P : Failure → Prop} (htarget : FailsOnly P (s.link.engineTarget s.files))
    (hsync : ∀ reason, P (.schemaSync e.schema.name reason)) :
    FailsOnly P ((ensure e).on s).1 := by
  rcases he : (ensure e).on s with ⟨r, ready⟩
  cases hs : s.isApplied e with
  | true =>
    rw [ensure_known hs] at he
    cases he
    exact failsOnly_ok _
  | false =>
    cases hd : s.database? with
    | none =>
      obtain ⟨f, hf⟩ := obstacle_of_unreached hd (tellUnreached e.schema)
      rw [ensure_obstacle hs hf] at he
      cases he
      rcases obstacle_cases hf with hu | ⟨_, _, _, _, rfl⟩
      · exact failsOnly_error (htarget f hu)
      · exact failsOnly_error (hsync _)
    | some db =>
      rw [(ensure_settled hd hs he).answer, told]
      split
      · exact failsOnly_ok _
      · exact failsOnly_error (hsync _)

/-- To ensure a table never tells that it is missing: an engine that cannot be made is told without
the operation. -/
theorem findsTable_ensure (e : Registered) (s : Store) : FindsTable ((ensure e).on s).1 := by
  refine failsOnly_ensure (failsOnly_engineTarget (findsTable_target _ _) fun reason => ?_)
    fun reason => ?_
  · exact Failure.not_tellsMissing (by simp [Failure.context])
  · exact Failure.not_tellsMissing (by simp [Failure.context])

/-- A call of an entity that has its table wherever it counts as applied. -/
theorem findsTable_perform (h : s.isApplied e = true → (s.table? e.schema).isSome = true)
    (call : Call) : FindsTable ((call.perform e).on s).1 := by
  have hensure := findsTable_ensure e s
  rcases he : (ensure e).on s with ⟨r, ready⟩
  rw [he] at hensure
  cases r with
  | error f =>
    rw [Call.perform_unready call he]
    exact failsOnly_error (hensure f rfl)
  | ok t =>
    have hthere : (ready.table? e.schema).isSome = true := by
      have hx := (ensure_spec he).1
      rcases hx.made (hx.applied rfl) with hs | hthere
      · rw [ensure_known hs] at he
        cases he
        exact h hs
      · exact hthere
    obtain ⟨tbl, htbl⟩ := Option.isSome_iff_exists.mp hthere
    obtain ⟨db, hdb, htable⟩ := Option.bind_eq_some_iff.mp htbl
    rw [Call.perform_ready call he]
    cases hp : call.plan e ready.paging ready.clock with
    | error f => exact failsOnly_error (findsTable_plan call f hp)
    | ok plan =>
      cases plan with
      | answer a c => exact failsOnly_ok _
      | transact operation c run =>
        have hclocked : ({ ready with clock := c } : Store).database? = some db := hdb
        rw [Call.outcome_ok, Call.on_follow_transact, transaction_reached hclocked]
        have hrun := findsTable_runs htable (Call.runs_of_plan hp)
        cases hr : run db with
        | error f => exact failsOnly_error (hrun f hr)
        | ok p => exact failsOnly_ok _

/-- A count for an entity that counts as applied and has no table. -/
theorem count_missing (hs : s.isApplied e = true) (hdb : s.database? = some db)
    (hnone : db.table? e.schema.denotedName = none) :
    ((Call.perform e (.count .null)).on s).1 =
      .error ((noSuchTable e.schema.denotedName).failure e.schema.name "count") := by
  have hcount : db.count e.schema.denotedName [] = .error (noSuchTable e.schema.denotedName) := by
    simp [Database.count, findTable, hnone]
  have hplan : Call.plan e s.paging s.clock (.count .null) = .ok (.transact "count"
      s.clock (Plan.telling .counted fun db => (asOperation e.schema.name "count"
        (db.count e.schema.denotedName [])).map fun n => (db, n))) := rfl
  rw [Call.perform_ready _ (ensure_known hs), hplan, Call.outcome_ok, Call.on_follow_transact]
  have hclocked : ({ s with clock := s.clock } : Store).database? = some db := hdb
  rw [transaction_reached hclocked]
  simp [Plan.telling, hcount, asOperation, Except.mapError, Except.map]

/-- No call for an entity tells of a missing table exactly if the table is there or the entity does not
count as applied. -/
theorem findsTable_iff (hdb : s.database? = some db) :
    (∀ call : Call, FindsTable ((call.perform e).on s).1) ↔
      (s.isApplied e = true → (s.table? e.schema).isSome = true) := by
  constructor
  · intro h hs
    rw [Option.isSome_iff_ne_none]
    intro hnone
    have htable : db.table? e.schema.denotedName = none := by
      rw [table?, hdb] at hnone
      exact hnone
    exact h (.count .null) _ (count_missing hs hdb htable) ⟨_, _, _, rfl⟩
  · exact findsTable_perform

end Store

end EntityStore
