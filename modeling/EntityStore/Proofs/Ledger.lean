import EntityStore.Proofs.Calls
import EntityStore.Proofs.ReadBack
import Mathlib.Data.Finmap

/-! # The store as a finite map

A ledger notes, from the answers alone, which record each id has. After any run of calls on a new
table the store answers as its ledger says. This needs that time moves on between two updates: the
database would otherwise put its own time in place of a time that did not change.
-/
namespace EntityStore

open Database

/-- Equality of records: the same columns in the same order, with values that are the same. -/
def Record.Same (r s : Record) : Prop :=
  List.Forall₂ (fun p q => p.1 = q.1 ∧ Value.Same p.2 q.2) r s

/-- The records that answers have told, by their ids. -/
abbrev Ledger := Finmap fun _ : String => Record

namespace Ledger

/-- The ledger after a call: only answers that tell of a change count. -/
def after (M : Ledger) : Call → Except Failure Answer → Ledger
  | .create _, .ok (.created r) =>
    match r.lookup "id" with
    | some (.text k) => M.insert k r
    | _ => M
  | .update id _, .ok (.updated (some r)) =>
    match id.idText? with
    | some k => M.insert k r
    | none => M
  | .delete id, .ok (.deleted true) =>
    match id.idText? with
    | some k => M.erase k
    | none => M
  | _, _ => M

def ofHistory (h : History) : Ledger := h.foldl (fun M p => M.after p.1 p.2) ∅

theorem after_unchanged (M : Ledger) (call : Call) {answer : Answer}
    (h : answer.isChange = false) : M.after call (.ok answer) = M := by
  cases answer with
  | created r => cases h
  | updated r =>
    cases r with
    | none => cases call <;> rfl
    | some r => cases h
  | deleted wasThere =>
    subst h
    cases call <;> rfl
  | page p => cases call <;> rfl
  | found r => cases call <;> rfl
  | counted n => cases call <;> rfl

end Ledger

/-! ## What is told and what is kept -/

/-- A cell that its column keeps as it is. -/
def Column.Settled (c : Column) (cell : Cell) : Prop :=
  ∃ given, cell = (Affinity.ofType c.type).apply given

namespace Column

theorem settled_null (c : Column) : c.Settled .null :=
  ⟨.null, by cases Affinity.ofType c.type <;> rfl⟩

theorem settled_stored (c : Column) (v : Value) : c.Settled (c.stored v) := by
  unfold stored
  split
  · exact ⟨_, rfl⟩
  · exact c.settled_null

theorem settled_omitted (c : Column) (stamp : String) : c.Settled (Table.omitted stamp c) := by
  unfold Table.omitted
  split
  · exact ⟨_, rfl⟩
  · exact c.settled_null

end Column

/-- Every cell of a row is settled in its column. -/
def TableSchema.Settled (t : TableSchema) (row : Row) : Prop :=
  ∀ p ∈ t.columns.zip row, p.1.Settled p.2

theorem settled_newRow (t : TableSchema) (stamp : String) (given : Record) :
    t.Settled (t.newRow stamp given) :=
  forall_newRow (fun c _ v _ => c.settled_stored v) fun c _ _ => c.settled_omitted stamp

theorem settled_revisedRow {t : TableSchema} {old : Row} (h : t.Settled old) (given : Record) :
    t.Settled (t.revisedRow given old) :=
  forall_revisedRow (fun c _ v _ => c.settled_stored v) h

/-- A row reads as the same record, whether it is read later or was told as it was written. -/
theorem same_record {t : TableSchema} {row : Row} {r told : Record} (h : t.Settled row)
    (hr : t.record row = .ok r) (ht : t.record (row.map Table.reported) = .ok told) :
    Record.Same r told := by
  rw [record_ok] at hr ht
  rw [List.zip_map_right, List.forall₂_map_left_iff] at ht
  refine forall₂_join hr ht ?_
  rintro ⟨c, cell⟩ hm ⟨n, x⟩ ⟨k, z⟩ ⟨rfl, hx⟩ ⟨rfl, hz⟩
  obtain ⟨given, hcell⟩ := h _ hm
  obtain ⟨y, hy, hs⟩ := read_reported hcell hx
  have hyz : (.ok y : Except ReadFault Value) = .ok z := hy.symm.trans hz
  cases hyz
  exact ⟨rfl, hs⟩

/-! ## Stores that agree with a ledger -/

/-- A clock that tells universal time and never stands still. -/
structure Clock.Ticks (c : Clock) : Prop where
  utc : c.now.offset = some 0
  tick : 0 < c.tick

namespace Store

/-- A row holds the record that was told of it, and was written before the clock's present time. -/
structure Keeps (e : Registered) (c : Clock) (row : Row) (k : String) (r : Record) : Prop where
  id : Row.id row = .text k
  settled : e.schema.Settled row
  told : e.schema.record (row.map Table.reported) = .ok r
  past : ∃ t : Timestamp, Row.updated row = timestampCell t ∧ t.offset = some 0 ∧
    t.instant < c.now.instant

theorem Keeps.later {e : Registered} {c c' : Clock} {row : Row} {k : String} {r : Record}
    (h : Keeps e c row k r) (hc : c.now.instant ≤ c'.now.instant) : Keeps e c' row k r := by
  obtain ⟨t, ht, ho, hi⟩ := h.past
  exact ⟨h.id, h.settled, h.told, t, ht, ho, lt_of_lt_of_le hi hc⟩

/-- The rows of an entity are those of a ledger. -/
structure Mirrors (e : Registered) (s : Store) (M : Ledger) : Prop where
  tabled : s.Tabled e.schema
  fitted : s.Fitted e.schema
  utc : s.clock.now.offset = some 0
  tick : 0 < s.clock.tick
  distinct : ((s.rows e.schema).map Row.id).Nodup
  kept : ∀ row ∈ s.rows e.schema, ∃ k r, M.lookup k = some r ∧ Keeps e s.clock row k r
  listed : ∀ k ∈ M, ∃ row ∈ s.rows e.schema, Row.id row = .text k

variable {e : Registered} {s s' : Store} {M : Ledger}

theorem Mirrors.of_quiet (h : Mirrors e s M) (hq : Quiet e s s') : Mirrors e s' M := by
  have hle := hq.clock.le (le_of_lt h.tick)
  refine ⟨hq.tabled h.tabled, hq.fitted h.fitted, hq.clock.utc h.utc, ?_, ?_, ?_, ?_⟩
  · rw [hq.clock.tick]
    exact h.tick
  · rw [hq.rows]
    exact h.distinct
  · rw [hq.rows]
    intro row hr
    obtain ⟨k, r, hk, hkeeps⟩ := h.kept row hr
    exact ⟨k, r, hk, hkeeps.later hle⟩
  · rw [hq.rows]
    exact h.listed

/-- The row of an id in the ledger, and the other way round. -/
theorem Mirrors.mem_iff (h : Mirrors e s M) (k : String) :
    k ∈ M ↔ ∃ row ∈ s.rows e.schema, Row.id row = .text k := by
  constructor
  · exact h.listed k
  · rintro ⟨row, hr, hid⟩
    obtain ⟨k', r, hk, hkeeps⟩ := h.kept row hr
    rw [hkeeps.id] at hid
    cases hid
    exact Finmap.mem_of_lookup_eq_some hk

/-- There are as many rows as records. -/
theorem Mirrors.card (h : Mirrors e s M) : (s.rows e.schema).length = M.keys.card := by
  have hinj : Function.Injective Cell.text := fun a b hab => by injection hab
  have hkeys : ((s.rows e.schema).map Row.id).toFinset = M.keys.image Cell.text := by
    ext c
    simp only [List.mem_toFinset, List.mem_map, Finset.mem_image, Finmap.mem_keys]
    constructor
    · rintro ⟨row, hr, rfl⟩
      obtain ⟨k, r, hk, hkeeps⟩ := h.kept row hr
      exact ⟨k, Finmap.mem_of_lookup_eq_some hk, hkeeps.id.symm⟩
    · rintro ⟨k, hk, rfl⟩
      exact h.listed k hk
  rw [← Finset.card_image_of_injective M.keys hinj, ← hkeys,
    List.toFinset_card_of_nodup h.distinct, List.length_map]

/-! ## What each operation preserves -/

theorem Keeps.lookup_id {c : Clock} {row : Row} {k : String} {r : Record} (h : Keeps e c row k r) :
    r.lookup "id" = some (.text k) := by
  refine record_id h.told ?_
  have hid := h.id
  cases row with
  | nil => cases hid
  | cons cell rest =>
    have hc : cell = .text k := hid
    rw [hc]
    rfl

/-- A row that is added with an id of its own goes into the ledger. -/
theorem Mirrors.of_added {row : Row} {k : String} {record : Record} (h : Mirrors e s M)
    (hk : k ∉ M) (hclock : s.clock.Leads s'.clock) (htabled : s'.Tabled e.schema)
    (hlen : row.length = e.schema.columns.length) (hkeeps : Keeps e s'.clock row k record)
    (hrows : s'.rows e.schema = s.rows e.schema ++ [row]) : Mirrors e s' (M.insert k record) := by
  have hle := hclock.le (le_of_lt h.tick)
  have hmem : ∀ other ∈ s'.rows e.schema, other ∈ s.rows e.schema ∨ other = row := by
    intro other ho
    rw [hrows] at ho
    exact (List.mem_append.mp ho).imp_right List.mem_singleton.mp
  have hother : ∀ other ∈ s.rows e.schema, ∃ k' r, k' ≠ k ∧ M.lookup k' = some r ∧
      Keeps e s.clock other k' r := by
    intro other ho
    obtain ⟨k', r, hk', hold⟩ := h.kept other ho
    refine ⟨k', r, ?_, hk', hold⟩
    rintro rfl
    exact hk (Finmap.mem_of_lookup_eq_some hk')
  refine ⟨htabled, ?_, hclock.utc h.utc, ?_, ?_, ?_, ?_⟩
  · intro other ho
    rcases hmem other ho with ho | rfl
    · exact h.fitted other ho
    · exact hlen
  · rw [hclock.tick]
    exact h.tick
  · rw [hrows, List.map_append, List.nodup_append']
    refine ⟨h.distinct, List.nodup_singleton _, ?_⟩
    intro c hc hn
    obtain ⟨other, ho, rfl⟩ := List.mem_map.mp hc
    obtain ⟨k', r, hne, -, hold⟩ := hother other ho
    have hsame := List.mem_singleton.mp hn
    rw [hold.id, hkeeps.id] at hsame
    exact hne (by injection hsame)
  · intro other ho
    rcases hmem other ho with ho | rfl
    · obtain ⟨k', r, hne, hk', hold⟩ := hother other ho
      exact ⟨k', r, by rw [Finmap.lookup_insert_of_ne _ hne, hk'], hold.later hle⟩
    · exact ⟨k, record, Finmap.lookup_insert _, hkeeps⟩
  · intro k' hk'
    rw [hrows]
    rcases Finmap.mem_insert.mp hk' with rfl | hk'
    · exact ⟨row, List.mem_append_right _ (List.mem_singleton_self _), hkeeps.id⟩
    · obtain ⟨other, ho, hid⟩ := h.listed k' hk'
      exact ⟨other, List.mem_append_left _ ho, hid⟩

theorem Mirrors.of_created {data : Value} {record : Record} (h : Mirrors e s M)
    (hc : Created e data s s' record) : ∃ k, record.lookup "id" = some (.text k) ∧ k ∉ M ∧
      Mirrors e s' (M.insert k record) := by
  obtain ⟨ready, tbl, values, now, later, hq, htbl, -, htime, hrow, hclock, -, hafter⟩ := hc
  have hleads := (Clock.read_leads htime).trans (Clock.issue_leads later)
  rw [← hclock] at hleads
  obtain ⟨rfl, -, -, hnow⟩ := Clock.read_spec htime
  have hr := h.of_quiet hq
  have hm := hr.tabled tbl htbl
  have hrows := rows_of_table htbl
  have hlt : s.clock.now.instant < s'.clock.now.instant := by
    rw [hclock, Clock.now_issue, hnow]
    exact Int.lt_add_of_pos_right _ h.tick
  have hkeeps : Keeps e s'.clock (e.schema.newRow later.issue.2.stamp
      (newRecord later.issue.1 s.clock.now values)) later.issue.1 record :=
    ⟨id_newRow, settled_newRow _ _ _, hrow.record, s.clock.now, updated_newRow, h.utc, hlt⟩
  have hnot : later.issue.1 ∉ M := by
    intro hk
    obtain ⟨row, hmem, hid⟩ := hr.listed _ hk
    -- the database refuses an id that a row has
    have hfree := (Table.constraintFault?_none.mp hrow.admitted).2 Table.idColumn
      (List.mem_append_right _ (List.mem_singleton_self _)) row (hrows ▸ hmem)
    rw [cell_id hm.1 hm.2, cell_id hm.1 hm.2, id_newRow, Cell.equals_text] at hfree
    exact absurd hid (of_decide_eq_false hfree)
  refine ⟨later.issue.1, hkeeps.lookup_id, hnot, h.of_added hnot hleads (tabled_after hm hafter)
    (TableSchema.length_newRow ..) hkeeps ?_⟩
  rw [rows_after hafter, ← hrows, hq.rows]

/-- The time of an update is later than the one that a row has, so the trigger leaves the row. -/
theorem Keeps.updated_ne {tbl : Table} {c : Clock} {old new : Row} {k : String} {r : Record}
    (h : Keeps e c old k r) (hm : e.schema.Makes tbl) (hutc : c.now.offset = some 0)
    (hnew : Row.updated new = timestampCell c.now) :
    tbl.cell new Table.updatedColumn ≠ tbl.cell old Table.updatedColumn := by
  obtain ⟨t, ht, ho, hi⟩ := h.past
  rw [cell_updated hm.1 hm.2, cell_updated hm.1 hm.2, hnew, ht]
  intro hsame
  exact absurd (instant_of_timestampCell hsame hutc ho) (ne_of_gt hi)

/-- A row that takes the place of the one with its id takes its place in the ledger. -/
theorem Mirrors.of_replaced {tbl : Table} {row : Row} {id : String} {record : Record}
    (h : Mirrors e s M) (hin : id ∈ M) (hclock : s.clock.Leads s'.clock) (hm : e.schema.Makes tbl)
    (htabled : s'.Tabled e.schema) (hlen : row.length = e.schema.columns.length)
    (hkeeps : Keeps e s'.clock row id record) (hrows : s'.rows e.schema =
      (s.rows e.schema).map fun old => if tbl.bears id old then row else old) :
    Mirrors e s' (M.insert id record) := by
  have hle := hclock.le (le_of_lt h.tick)
  have hids : ∀ old : Row, Row.id (if tbl.bears id old then row else old) = Row.id old :=
    id_replaced hm.1 hm.2 hkeeps.id
  have hmem : ∀ other ∈ s'.rows e.schema, other = row ∨
      other ∈ s.rows e.schema ∧ Row.id other ≠ .text id := by
    intro other ho
    rw [hrows] at ho
    obtain ⟨old, hold, rfl⟩ := List.mem_map.mp ho
    split
    · exact .inl rfl
    · rename_i hb
      rw [bears_eq hm.1 hm.2, decide_eq_true_iff] at hb
      exact .inr ⟨hold, hb⟩
  refine ⟨htabled, ?_, hclock.utc h.utc, ?_, ?_, ?_, ?_⟩
  · intro other ho
    rcases hmem other ho with rfl | ⟨ho, -⟩
    · exact hlen
    · exact h.fitted other ho
  · rw [hclock.tick]
    exact h.tick
  · have hsame : (s'.rows e.schema).map Row.id = (s.rows e.schema).map Row.id := by
      rw [hrows, List.map_map]
      exact List.map_congr_left fun old _ => hids old
    rw [hsame]
    exact h.distinct
  · intro other ho
    rcases hmem other ho with rfl | ⟨ho, hne⟩
    · exact ⟨id, record, Finmap.lookup_insert _, hkeeps⟩
    · obtain ⟨k, r, hk, hold⟩ := h.kept other ho
      have hkne : k ≠ id := by
        rintro rfl
        exact hne hold.id
      exact ⟨k, r, by rw [Finmap.lookup_insert_of_ne _ hkne, hk], hold.later hle⟩
  · intro k hk
    have hkM : k ∈ M := by
      rcases Finmap.mem_insert.mp hk with rfl | hk
      · exact hin
      · exact hk
    obtain ⟨old, hold, hid⟩ := h.listed k hkM
    rw [hrows]
    exact ⟨_, List.mem_map_of_mem hold, (hids old).trans hid⟩

theorem Mirrors.of_updated {id : String} {data : Value} {record : Record}
    (hd : e.descriptor.Accepted) (h : Mirrors e s M) (hc : Updated e id data s s' record) :
    id ∈ M ∧ Mirrors e s' (M.insert id record) := by
  obtain ⟨ready, tbl, old, new, values, now, hq, htbl, hfound, hvalid, htime, hrow,
    ⟨db, -, htrigger⟩, hclock, -, hafter⟩ := hc
  obtain ⟨rfl, -, -, hnow⟩ := Clock.read_spec htime
  have hr := h.of_quiet hq
  have hm := hr.tabled tbl htbl
  have hrows := rows_of_table htbl
  have hlt : s.clock.now.instant < s'.clock.now.instant := by
    rw [hclock, hnow]
    exact Int.lt_add_of_pos_right _ h.tick
  obtain ⟨hold, hoid⟩ := row_of_found hr.tabled htbl hfound
  have hlen : old.length = e.schema.columns.length := hr.fitted old hold
  obtain ⟨k, r, -, hkept⟩ := h.kept old (hq.rows ▸ hold)
  have hupd : Row.updated (e.schema.revisedRow (changedValues s.clock.now values) old) =
      timestampCell s.clock.now := updated_revisedRow hlen
  obtain rfl : new = e.schema.revisedRow (changedValues s.clock.now values) old := by
    rcases afterTrigger_cases db tbl ready.clock.stamp old
      (e.schema.revisedRow (changedValues s.clock.now values) old) with hn | ⟨hsame, -⟩
    · exact htrigger.trans hn
    · exact absurd hsame (hkept.updated_ne hm h.utc hupd)
  have hid : Row.id (e.schema.revisedRow (changedValues s.clock.now values) old) = .text id :=
    (id_revisedRow hlen (lookup_implicit hd hvalid (by decide))).trans hoid
  have hin : id ∈ M := (hr.mem_iff id).mpr ⟨old, hold, hoid⟩
  refine ⟨hin, hr.of_replaced hin (hclock ▸ .refl _) hm (tabled_after hm hafter)
    (TableSchema.length_revisedRow _ hlen) ⟨hid, settled_revisedRow hkept.settled _, hrow.record,
      s.clock.now, hupd, h.utc, hlt⟩ ?_⟩
  rw [rows_after hafter, hrows]

theorem Mirrors.of_deleted {id : String} {wasThere : Bool} (h : Mirrors e s M)
    (hc : Deleted e id s s' wasThere) :
    (wasThere = true ↔ id ∈ M) ∧ Mirrors e s' (M.erase id) := by
  obtain ⟨ready, tbl, hq, htbl, hclock, -, hafter⟩ := hc
  have hr := h.of_quiet hq
  have hm := hr.tabled tbl htbl
  have hrows := rows_of_table htbl
  have hleft := rows_after hafter
  have hmem : ∀ row, row ∈ s'.rows e.schema ↔ row ∈ ready.rows e.schema ∧ Row.id row ≠ .text id := by
    intro row
    rw [hleft, hrows, List.mem_filter, bears_eq hm.1 hm.2]
    simp
  refine ⟨?_, tabled_after hm hafter, ?_, ?_, ?_, ?_, ?_, ?_⟩
  · rw [decide_eq_true_iff, List.length_filter_lt_length_iff_exists, hr.mem_iff id, hrows]
    simp [bears_eq hm.1 hm.2]
  · intro row hrow
    exact hr.fitted row ((hmem row).mp hrow).1
  · rw [hclock]
    exact hr.utc
  · rw [hclock]
    exact hr.tick
  · rw [hleft]
    exact (hrows ▸ hr.distinct).sublist (List.filter_sublist.map _)
  · intro row hrow
    obtain ⟨hrow, hne⟩ := (hmem row).mp hrow
    obtain ⟨k, r, hk, hkeeps⟩ := hr.kept row hrow
    have hkne : k ≠ id := by
      rintro rfl
      exact hne hkeeps.id
    exact ⟨k, r, by rw [Finmap.lookup_erase_ne hkne, hk], hclock ▸ hkeeps⟩
  · intro k hk
    obtain ⟨hne, hk⟩ := Finmap.mem_erase.mp hk
    obtain ⟨row, hrow, hid⟩ := hr.listed k hk
    refine ⟨row, (hmem row).mpr ⟨hrow, ?_⟩, hid⟩
    rw [hid]
    exact fun hc => hne (by injection hc)

theorem Ledger.erase_of_notMem {M : Ledger} {k : String} (h : k ∉ M) : M.erase k = M := by
  refine Finmap.ext_lookup ?_
  intro x
  by_cases hx : x = k
  · subst hx
    rw [Finmap.lookup_erase, Finmap.lookup_eq_none.mpr h]
  · rw [Finmap.lookup_erase_ne hx]

/-- A call keeps a store in agreement with its ledger. -/
theorem Mirrors.step (hd : e.descriptor.Accepted) (h : Mirrors e s M) {call : Call}
    {r : Except Failure Answer} (hc : Effect e s s' call r) : Mirrors e s' (M.after call r) := by
  cases hc with
  | failed call f hq =>
    have hsame : M.after call (.error f) = M := by cases call <;> rfl
    rw [hsame]
    exact h.of_quiet hq
  | unchanged call answer hq hsilent =>
    rw [M.after_unchanged call hsilent]
    exact h.of_quiet hq
  | created hrow =>
    obtain ⟨k, hk, -, hm⟩ := h.of_created hrow
    simpa only [Ledger.after, hk] using hm
  | updated hk hrow =>
    simpa only [Ledger.after, hk] using (h.of_updated hd hrow).2
  | @deleted id k wasThere hk hrow =>
    obtain ⟨hiff, hm⟩ := h.of_deleted hrow
    cases wasThere with
    | true => simpa only [Ledger.after, hk] using hm
    | false =>
      have hnot : k ∉ M := fun hin => by cases hiff.mpr hin
      rw [Ledger.erase_of_notMem hnot] at hm
      exact hm

/-- A store as it is once time has passed. -/
theorem Mirrors.waited (h : Mirrors e s M) (micros : ℕ) : Mirrors e (s.waited micros) M :=
  h.of_quiet (quiet_waited e s micros)

theorem Mirrors.run (hd : e.descriptor.Accepted) (h : Mirrors e s M) (steps : List Step) :
    Mirrors e (run e steps s).2 ((run e steps s).1.foldl (fun M p => M.after p.1 p.2) M) := by
  induction steps generalizing s M with
  | nil => exact h
  | cons step rest ih =>
    have hw := h.waited step.pause
    exact ih (hw.step hd (perform_effect hw.tabled hw.fitted rfl))

/-! ## The answers of a store -/

/-- A store answers every call as a ledger says, wherever the call succeeds. -/
structure Answers (e : Registered) (s : Store) (M : Ledger) : Prop where
  found : ∀ {x k answer s'}, x.idText? = some k → (getById e x).on s = (.ok answer, s') →
    Option.Rel Record.Same answer (M.lookup k)
  updated : ∀ {x k data answer s'}, x.idText? = some k →
    (update e x data).on s = (.ok answer, s') → (answer = none ↔ k ∉ M)
  deleted : ∀ {x k answer s'}, x.idText? = some k → (delete e x).on s = (.ok answer, s') →
    (answer = true ↔ k ∈ M)
  counted : ∀ {n s'}, (count e .null).on s = (.ok n, s') → n = M.keys.card
  created : ∀ {data record s'}, (create e data).on s = (.ok record, s') →
    ∃ k, record.lookup "id" = some (.text k) ∧ k ∉ M
  failed : ∀ {call f s'}, (Call.perform e call).on s = (.error f, s') →
    s'.rows e.schema = s.rows e.schema

theorem Mirrors.answers (hd : e.descriptor.Accepted) (h : Mirrors e s M) : Answers e s M := by
  refine ⟨?_, ?_, ?_, ?_, ?_, ?_⟩
  · intro x k answer s' hk hg
    rcases getById_ok h.tabled h.fitted h.distinct hk hg with
      ⟨hnone, rfl⟩ | ⟨row, hrow, hid, record, hrec, rfl⟩
    · have hnot : k ∉ M := fun hin => by
        obtain ⟨row, hrow, hid⟩ := h.listed k hin
        exact hnone row hrow hid
      rw [Finmap.lookup_eq_none.mpr hnot]
      exact .none
    · obtain ⟨k', r, hk', hkeeps⟩ := h.kept row hrow
      rw [hkeeps.id] at hid
      cases hid
      rw [hk']
      exact .some (same_record hkeeps.settled hrec hkeeps.told)
  · intro x k data answer s' hk hu
    rcases update_spec h.tabled h.fitted hu with
      ⟨⟨f, hf⟩, -⟩ | ⟨ha, hq, hnone⟩ | ⟨k', record, hk', ha, hrow⟩
    · cases hf
    · cases ha
      obtain ⟨tbl, ht, hn⟩ := hnone k hk
      have hm := hq.tabled h.tabled tbl ht
      refine iff_of_true rfl ?_
      rw [h.mem_iff k, ← hq.rows, rows_of_table ht]
      rintro ⟨row, hrow, hid⟩
      exact rowOf?_none hm.1 hm.2 hn row hrow hid
    · cases ha
      rw [hk] at hk'
      cases hk'
      exact iff_of_false (by simp) (not_not_intro (h.of_updated hd hrow).1)
  · intro x k answer s' hk hx
    rcases delete_spec hx with ⟨⟨f, hf⟩, -⟩ | ⟨-, -, hn⟩ | ⟨k', b, hk', ha, hrow⟩
    · cases hf
    · rw [hk] at hn
      cases hn
    · cases ha
      rw [hk] at hk'
      cases hk'
      exact (h.of_deleted hrow).1
  · intro n s' hn
    exact ((count_spec hn).2 n rfl rfl).trans h.card
  · intro data record s' hc
    rcases create_spec h.tabled hc with ⟨⟨f, hf⟩, -⟩ | ⟨r, hr, hrow⟩
    · cases hf
    · cases hr
      obtain ⟨k, hk, hnot, -⟩ := h.of_created hrow
      exact ⟨k, hk, hnot⟩
  · intro call f s' hc
    have heffect := perform_effect h.tabled h.fitted hc
    cases heffect with
    | failed call f hq => exact hq.rows

theorem Fresh.mirrors (h : Fresh e s) (hc : s.clock.Ticks) : Mirrors e s ∅ := by
  refine ⟨h.tabled, h.fitted, hc.utc, hc.tick, ?_, ?_, ?_⟩
  · rw [h.rows]
    exact List.nodup_nil
  · rw [h.rows]
    intro row hr
    cases hr
  · intro k hk
    exact absurd hk Finmap.notMem_empty

/-- After any run on a new table, and whenever it is asked, a store answers as the ledger of the run
says. -/
theorem run_answers (hd : e.descriptor.Accepted) (h : Fresh e s) (hc : s.clock.Ticks)
    (steps : List Step) (pause : ℕ) :
    Answers e ((EntityStore.run e steps s).2.waited pause)
      (Ledger.ofHistory (EntityStore.run e steps s).1) :=
  (((h.mirrors hc).run hd steps).waited pause).answers hd

/-- One price is created. -/
def onePrice : List Step := [⟨0, .create (.mapping [("price", .decimal (.finite false 150 (-2)))])⟩]

/-- A price that was created is the one record that is counted. -/
theorem one_price_noted : (priced 6 2).Accepted ∧ Fresh ⟨0, priced 6 2⟩ inMemory ∧
    inMemory.clock.Ticks ∧
    (Ledger.ofHistory (EntityStore.run ⟨0, priced 6 2⟩ onePrice inMemory).1).keys.card = 1 := by
  have hd : (priced 6 2).Accepted := by
    unfold Descriptor.Accepted
    rfl
  have hc : inMemory.clock.Ticks := ⟨rfl, by decide⟩
  have ha := @run_answers ⟨0, priced 6 2⟩ inMemory hd (fresh_inMemory _) hc onePrice 0
  have hcount : ((count ⟨0, priced 6 2⟩ .null).on
      ((EntityStore.run ⟨0, priced 6 2⟩ onePrice inMemory).2.waited 0)).1.toOption = some 1 := by
    decide +kernel
  refine ⟨hd, fresh_inMemory _, hc, ?_⟩
  rcases hx : (count ⟨0, priced 6 2⟩ .null).on
    ((EntityStore.run ⟨0, priced 6 2⟩ onePrice inMemory).2.waited 0) with ⟨f | n, s'⟩
  · rw [hx] at hcount
    cases hcount
  · rw [hx] at hcount
    cases hcount
    exact (ha.counted hx).symm

end Store

end EntityStore
