import EntityStore.Proofs.Changing
import EntityStore.Proofs.Restarts

/-! # What is read after a change

A change tells the row as its statement left it, and a trigger may write the row once more. The record
that is read next is the one that was told, unless the row had the very time of the change as its last
update: the trigger takes that time for one that was left alone, and puts the time of the database in
its place.
-/
namespace EntityStore

open Database

/-! ## Records that tell the same -/

theorem Record.Same.lookup {r s : Record} (h : Record.Same r s) {n : String} {x : Value}
    (hx : r.lookup n = some x) : ∃ y, s.lookup n = some y ∧ Value.Same x y := by
  induction h with
  | nil => cases hx
  | @cons p q r s hpq _ ih =>
    obtain ⟨k, v⟩ := p
    obtain ⟨l, w⟩ := q
    obtain ⟨rfl, hsame⟩ : k = l ∧ Value.Same v w := hpq
    rw [List.lookup_cons] at hx ⊢
    by_cases hk : n = k
    · rw [beq_iff_eq.mpr hk] at hx ⊢
      cases hx
      exact ⟨w, rfl, hsame⟩
    · rw [beq_eq_false_iff_ne.mpr hk] at hx ⊢
      exact ih hx

/-- Records of the same columns are the same if they tell the same of each column. -/
theorem same_of_lookups {names : List String} {r s : Record} (hr : r.map (·.1) = names)
    (hs : s.map (·.1) = names) (hn : names.Nodup)
    (h : ∀ n ∈ names, ∃ x y, r.lookup n = some x ∧ s.lookup n = some y ∧ Value.Same x y) :
    Record.Same r s := by
  induction names generalizing r s with
  | nil =>
    rw [List.map_eq_nil_iff.mp hr, List.map_eq_nil_iff.mp hs]
    exact .nil
  | cons n names ih =>
    obtain ⟨⟨k, v⟩, r', rfl, hk, hr'⟩ := List.map_eq_cons_iff.mp hr
    obtain ⟨⟨l, w⟩, s', rfl, hl, hs'⟩ := List.map_eq_cons_iff.mp hs
    obtain rfl : k = n := hk
    obtain rfl : l = k := hl
    rw [List.nodup_cons] at hn
    have hrest : ∀ m ∈ names, ∀ t : Record, ∀ z, List.lookup m ((l, z) :: t) = t.lookup m := by
      intro m hm t z
      have hne : m ≠ l := fun heq => hn.1 (heq ▸ hm)
      rw [List.lookup_cons, beq_eq_false_iff_ne.mpr hne]
    refine .cons ⟨rfl, ?_⟩ (ih hr' hs' hn.2 fun m hm => ?_)
    · obtain ⟨x, y, hx, hy, hsame⟩ := h l (List.mem_cons_self ..)
      simp only [List.lookup_cons_self, Option.some.injEq] at hx hy
      rw [hx, hy]
      exact hsame
    · obtain ⟨x, y, hx, hy, hsame⟩ := h m (List.mem_cons_of_mem _ hm)
      rw [hrest m hm] at hx hy
      exact ⟨x, y, hx, hy, hsame⟩

/-! ## The time of the database -/

/-- A clock in whole seconds, as the database tells it. -/
def Clock.wholeSeconds (c : Clock) : ℤ := c.now.instant / 1000000 * 1000000

theorem readCell_stamp {c : Clock} (hutc : c.now.offset = some 0) :
    ∃ u, readCell .timestamp (.text c.stamp) = .ok (.timestamp u) ∧ u.instant = c.wholeSeconds := by
  have hnow : (c.now.toUtc?).getD c.now = c.now := by
    rw [Timestamp.toUtc?, hutc]
    rfl
  have hclock := Iso.readClock?_seconds ((c.now.toUtc?).getD c.now) []
  rw [List.append_nil] at hclock
  have hread := Iso.timestamp?_moment (stamp_toList c) (by simp) hclock
  rw [hnow] at hread
  obtain ⟨u, hu, hdate, hmicros, hoffset⟩ := Iso.ofParts?_clock c.now (Nat.zero_le _) none
  refine ⟨{ u with offset := some 0 }, ?_, ?_⟩
  · simp [readCell, hread, hu, Timestamp.toUtc?, hoffset]
  · have hmicro : c.now.micro = c.now.micros % 1000000 := rfl
    simp only [Clock.wholeSeconds, Timestamp.instant, Timestamp.localMicros, hdate, hmicros, hutc,
      Option.getD_some, microsPerDay]
    omega

namespace Store

variable {e : Registered} {s s' : Store}

/-! ## The trigger -/

/-- What was applied for an entity stands in the database. -/
def Stood (e : Registered) (s : Store) : Prop :=
  s.isApplied e = true → ∃ db, s.database? = some db ∧ Standing e.schema db

theorem Fresh.stood (h : Fresh e s) : Stood e s := by
  intro happlied
  rw [h.applied] at happlied
  cases happlied

theorem Stood.waited (h : Stood e s) (pause : ℕ) : Stood e (s.waited pause) := by
  rw [waited_eq]
  exact h

theorem Stood.perform (h : Stood e s) (call : Call) : Stood e ((call.perform e).on s).2 := by
  rcases he : (ensure e).on s with ⟨r, ready⟩
  have hready : Stood e ready := by
    cases hs : s.isApplied e with
    | true =>
      rw [ensure_known hs] at he
      cases he
      exact h
    | false => exact ensure_standing hs he
  cases r with
  | error f =>
    rw [Call.perform_unready call he]
    exact hready
  | ok t =>
    -- past its table, a call rewrites rows and nothing that stands
    obtain ⟨hwrites, happlied⟩ := @outcome_rewrites e call ready
    rw [Call.perform_ready call he]
    intro hmarked
    rw [isApplied, happlied] at hmarked
    obtain ⟨db, hdb, hstanding⟩ := hready hmarked
    obtain ⟨_, hafter, rows, rfl⟩ := hwrites.reached hdb
    exact ⟨_, hafter, hstanding.rewritten _ rows⟩

theorem Stood.run (h : Stood e s) (steps : List Step) : Stood e (EntityStore.run e steps s).2 :=
  run_induction (fun _ hs step => (hs.waited step.pause).perform step.call) h steps

/-- No call changes how a store pages. -/
theorem paging_perform (call : Call) (s : Store) :
    ((call.perform e).on s).2.paging = s.paging :=
  (@perform_matches (fun _ _ => True) s e (fun _ => trivial) (fun _ _ _ _ _ => trivial)
    (fun _ _ => trivial) (fun _ _ => trivial) call).1.paging.symm

/-- The trigger of an entity whose table was applied touches its rows. -/
theorem Stood.touched {db : Database} {tbl : Table} {rows : List Row} (h : Stood e s)
    (happlied : s.isApplied e = true)
    (hdb : s.database? = some (db.putTable (tbl.withRows rows)))
    (htbl : s.table? e.schema = some (tbl.withRows rows)) : db.isTouched tbl = true := by
  obtain ⟨db', hdb', hstanding⟩ := h happlied
  rw [hdb] at hdb'
  cases hdb'
  obtain ⟨other, hother, htrigger⟩ := hstanding.trigger
  rw [← table_of_database hdb, htbl] at hother
  cases hother
  obtain ⟨hmem, -⟩ := (htrigger ⟨denoted e.schema.trigger, tbl.name⟩).mpr rfl
  rw [isTouched, List.any_eq_true]
  exact ⟨_, hmem, sameName_refl _⟩

/-- The trigger leaves every column alone but the time of the last update. -/
theorem mem_zip_afterTrigger {db : Database} {tbl : Table} {clock : Clock} {old new : Row}
    (hm : e.schema.Makes tbl) {p : Column × Cell}
    (hp : p ∈ e.schema.columns.zip (db.afterTrigger tbl clock.stamp old new))
    (hne : p.1.name ≠ "updated_at") : p ∈ e.schema.columns.zip new := by
  rcases afterTrigger_cases db tbl clock.stamp old new with h | ⟨-, h⟩
  · rwa [h] at hp
  · rw [h] at hp
    rcases mem_zip_touched hm.1 hm.2 hp with ⟨hp, -⟩ | rfl
    · exact hp
    · exact absurd rfl hne

theorem updated_afterTrigger {db : Database} {tbl : Table} {clock : Clock} {old new : Row}
    (hm : e.schema.Makes tbl) (hw : new.length = e.schema.columns.length)
    (htouched : db.isTouched tbl = true) :
    Row.updated (db.afterTrigger tbl clock.stamp old new) =
      if Row.updated new = Row.updated old then .text clock.stamp else Row.updated new := by
  rw [afterTrigger, cell_updated hm.1 hm.2, cell_updated hm.1 hm.2]
  by_cases hsame : Row.updated new = Row.updated old
  · rw [if_pos ⟨htouched, hsame⟩, if_pos hsame]
    exact updated_touched hm.1 hm.2 hw
  · rw [if_neg fun h => hsame h.2, if_neg hsame]

/-! ## Reading by an id -/

/-- Where the table is there, the reading of a record by its id does not fail. -/
theorem Ready.getById {tbl : Table} (hd : e.descriptor.Accepted) (h : Ready e s tbl) {x : Value}
    {k : String} (hx : x.idText? = some k) (hmax : 1 ≤ s.paging.largest) :
    ∃ answer s', (Store.getById e x).on s = (.ok answer, s') := by
  have hnull : x ≠ .null := by
    rintro rfl
    cases hx
  have hu : e.descriptor.Understands [("id", x)] := by
    refine Descriptor.understands_single (List.mem_append_left _ (by decide)) fun _ => ?_
    exact ⟨.value (.text k), by simp [sought, hx]⟩
  obtain ⟨found?, hcond, hsel⟩ := conditionsOf_spec hd h.makes hu
  obtain ⟨listing, hlist, -⟩ := h.lists hd hsel ⟨denoted "created_at", .descending⟩
  have hc : (⟨"created_at", .timestamp, false, some .now⟩ : Column) ∈ e.schema.columns :=
    List.mem_append_left _ (by simp [TableSchema.implicit])
  obtain ⟨s', hget, -, -⟩ := get_ready h { filters := .mapping [("id", x)], limit := .int 1 }
    (checkPage_at (n := 1) le_rfl hmax 0) le_rfl (fitsInt_nat.mpr (by decide))
    (fitsInt_nat.mpr (by decide)) (column_known hd hc) hc (direction_word .descending) hcond hsel
    hlist
  unfold Store.getById
  rw [Action.on_bind_ok hget]
  exact ⟨_, s', rfl⟩

/-! ## Changing and reading -/

section Reread

variable {db : Database} {tbl : Table} {clock : Clock} {old : Row} {id : String} {data : Value}
  {values : FieldValues} {now : Timestamp} {reread told : Record} {c : Column}

/-- Every column but the time of the last update is read as it was told. -/
theorem reread_other {given : Record} (hd : e.descriptor.Accepted) (hm : e.schema.Makes tbl)
    (hw : old.length = e.schema.columns.length)
    (hsource : e.descriptor.Sourced (e.schema.revisedRow given old))
    (hrow : Revises e.schema tbl id old given told)
    (hnew : (db.afterTrigger tbl clock.stamp old (e.schema.revisedRow given old)).length =
      e.schema.columns.length)
    (hr : e.schema.record (db.afterTrigger tbl clock.stamp old (e.schema.revisedRow given old)) =
      .ok reread)
    (hc : c ∈ e.schema.columns) (hne : c.name ≠ "updated_at") :
    ∃ x y, reread.lookup c.name = some x ∧ told.lookup c.name = some y ∧ Value.Same x y := by
  obtain ⟨cell, hcell⟩ := exists_cell hnew hc
  obtain ⟨x, hx, hread⟩ := record_lookup hd.schema_distinct hnew hr hcell
  have hrevised := mem_zip_afterTrigger hm hcell hne
  have hreported : (c, Table.reported cell) ∈
      e.schema.columns.zip ((e.schema.revisedRow given old).map Table.reported) := by
    rw [List.zip_map_right]
    exact List.mem_map_of_mem hrevised
  obtain ⟨y, hy, htold⟩ := record_lookup hd.schema_distinct
    (by rw [List.length_map, TableSchema.length_revisedRow given hw]) hrow.record hreported
  exact ⟨x, y, hx, hy, ((hsource _ hrevised).told hd hread htold).1⟩

/-- The time of the last update is read as the database's own where the trigger renewed it, and else
as the time of the change. -/
theorem reread_updated {row : Row} (hd : e.descriptor.Accepted) (hm : e.schema.Makes tbl)
    (hw : row.length = e.schema.columns.length) (hr : e.schema.record row = .ok reread)
    (hnow : now.offset = some 0) (hclock : clock.now.offset = some 0)
    (hrow : Row.updated row =
      if timestampCell now = Row.updated old then .text clock.stamp else timestampCell now) :
    ∃ u, reread.lookup "updated_at" = some (.timestamp u) ∧
      u.instant = if timestampCell now = Row.updated old then clock.wholeSeconds else now.instant := by
  obtain ⟨x, hx, hread⟩ :=
    record_lookup hd.schema_distinct hw hr ((mem_zip_updated hm.1 hm.2 hw).mpr hrow)
  by_cases hsame : timestampCell now = Row.updated old
  · rw [if_pos hsame] at hread ⊢
    obtain ⟨u, hu, hinstant⟩ := readCell_stamp hclock
    exact ⟨u, hx.trans (congrArg some (Except.ok.inj (hread.symm.trans hu))), hinstant⟩
  · rw [if_neg hsame] at hread ⊢
    exact ⟨now, hx.trans (congrArg some (Except.ok.inj (hread.symm.trans (readCell_utc hnow)))),
      rfl⟩

/-- What is read of a changed row is what was told, unless the time of the last update was renewed to
another moment. -/
theorem same_reread (hd : e.descriptor.Accepted) (hr : reread.map (·.1) = e.schema.columnNames)
    (ht : told.map (·.1) = e.schema.columnNames)
    (hother : ∀ n ∈ e.schema.columnNames, n ≠ "updated_at" →
      ∃ x y, reread.lookup n = some x ∧ told.lookup n = some y ∧ Value.Same x y)
    {t u : Timestamp} (hu : reread.lookup "updated_at" = some (.timestamp u))
    (htold : told.lookup "updated_at" = some (.timestamp t)) :
    Record.Same reread told ↔ u.instant = t.instant := by
  constructor
  · intro h
    obtain ⟨y, hy, hsame⟩ := h.lookup hu
    rw [htold] at hy
    cases hy
    cases hsame with
    | refl => rfl
    | number q hq => cases hq
    | moment hinstant => exact hinstant
  · intro hinstant
    apply same_of_lookups hr ht hd.schema_distinct
    intro n hn
    by_cases hne : n = "updated_at"
    · subst hne
      exact ⟨_, _, hu, htold, .moment hinstant⟩
    · exact hother n hn hne

/-- Where a row took the place of those of an id, no other has that id. -/
theorem eq_of_replaced {rows : List Row} {row new : Row} {k : String} (hm : e.schema.Makes tbl)
    (hrow : row ∈ rows.map fun before => if tbl.bears k before then new else before)
    (hid : Row.id row = .text k) : row = new := by
  obtain ⟨before, -, rfl⟩ := List.mem_map.mp hrow
  by_cases hb : tbl.bears k before = true
  · exact if_pos hb
  · rw [if_neg hb] at hid
    rw [bears_eq hm.1 hm.2, hid] at hb
    exact absurd (decide_eq_true rfl) hb

/-- After a change the row of its id is there to be read. -/
theorem Updated.ready {k : String} (hd : e.descriptor.Accepted) (hkept : Kept e s)
    (h : Updated e k data s s' told) :
    ∃ tbl, Ready e s' tbl ∧ ∃ row ∈ s'.rows e.schema, Row.id row = .text k := by
  have hkept' := hkept.of_updated hd h
  obtain ⟨ready, tbl, old, new, values, now, hq, htbl, hfound, hvalid, -, hrevises, ⟨db, -, htrigger⟩,
    -, ⟨happlied, hmarks⟩, hafter⟩ := h
  have hk := hkept.of_quiet hq
  have hm := hk.tabled tbl htbl
  obtain ⟨hin, hoid⟩ := row_of_found hk.tabled htbl hfound
  obtain ⟨-, hnid, -⟩ := changed_row hd hm (hk.fitted old hin) hoid (hk.sourced old hin) hvalid
    hrevises htrigger
  refine ⟨_, ⟨hkept', ?_, hafter⟩, new, ?_, hnid⟩
  · rw [isApplied, hmarks]
    exact happlied
  · rw [rows_after hafter]
    refine List.mem_map.mpr ⟨old, rows_of_table htbl ▸ hin, if_pos ?_⟩
    rw [bears_eq hm.1 hm.2, hoid]
    exact decide_eq_true rfl

/-- How the row of a change is read after it. -/
theorem Updated.rereads {k : String} {row : Row} (hd : e.descriptor.Accepted) (hkept : Kept e s)
    (hutc : s.clock.now.offset = some 0) (hstood : Stood e s') (h : Updated e k data s s' told)
    (hrow : row ∈ s'.rows e.schema) (hid : Row.id row = .text k)
    (hr : e.schema.record row = .ok reread) :
    ∃ now later old, s.clock.read = .ok (now, later) ∧ old ∈ s.rows e.schema ∧
      Row.id old = .text k ∧
      (∀ n ∈ e.schema.columnNames, n ≠ "updated_at" →
        ∃ v w, reread.lookup n = some v ∧ told.lookup n = some w ∧ Value.Same v w) ∧
      (Record.Same reread told ↔
        (timestampCell now = Row.updated old → later.wholeSeconds = now.instant)) := by
  obtain ⟨ready, tbl, old, new, values, now, hq, htbl, hfound, hvalid, htime, hrevises,
    ⟨db, hdb, htrigger⟩, -, ⟨happlied, hmarks⟩, hafter⟩ := h
  have hm := hq.tabled hkept.tabled tbl htbl
  obtain ⟨hold, hoid⟩ := row_of_found (hq.tabled hkept.tabled) htbl hfound
  rw [hq.rows] at hold
  have hw := hkept.fitted old hold
  have hsource := hkept.sourced old hold
  obtain ⟨hlength, -, -⟩ := changed_row hd hm hw hoid hsource hvalid hrevises htrigger
  obtain ⟨hnow, -, hlater, -⟩ := Clock.read_spec htime
  have hutcnow : now.offset = some 0 := by
    rw [hnow]
    exact hutc
  obtain rfl : row = new := by
    rw [rows_after hafter] at hrow
    exact eq_of_replaced hm hrow hid
  have hmarked : s'.isApplied e = true := by
    rw [isApplied, hmarks]
    exact happlied
  have hrevised := TableSchema.length_revisedRow (changedValues now values) hw
  have hupdated := @updated_afterTrigger _ db tbl ready.clock old _ hm hrevised
    (hstood.touched hmarked hdb hafter)
  rw [updated_revisedRow hw, ← htrigger] at hupdated
  obtain ⟨u, hu, hinstant⟩ := reread_updated hd hm hlength hr hutcnow hlater hupdated
  obtain ⟨r, hrecord⟩ := hsource.record hd
  have hother : ∀ n ∈ e.schema.columnNames, n ≠ "updated_at" →
      ∃ v w, reread.lookup n = some v ∧ told.lookup n = some w ∧ Value.Same v w := by
    intro n hn hne
    obtain ⟨c, hc, rfl⟩ := List.mem_map.mp hn
    obtain ⟨cells, hcells⟩ := hrevises.cells
    exact reread_other hd hm hw (sourced_revisedRow hd hvalid hcells hsource) hrevises
      (htrigger ▸ hlength) (htrigger ▸ hr) hc hne
  refine ⟨now, ready.clock, old, htime, hold, hoid, hother, ?_⟩
  rw [same_reread hd (record_names hlength hr)
    (record_names (by rw [List.length_map, hrevised]) hrevises.record) hother hu
    (hrevises.updated hd hw hrecord hutcnow), hinstant]
  by_cases hsame : timestampCell now = Row.updated old
  · rw [if_pos hsame]
    exact ⟨fun h _ => h, fun h => h hsame⟩
  · rw [if_neg hsame]
    exact ⟨fun _ h => absurd h hsame, fun _ => rfl⟩

/-- After any run on a new table, and whenever it is made, a change that answers a record is followed
by a reading of that record. It tells the same in every column but the time of the last update, and
in that one too exactly if the row had not this time before, or the database's whole seconds are the
time of the change. -/
theorem update_reread {s₀ : Store} {steps : List Step} {pause : ℕ} {k : String} {id x data : Value}
    {told : Record} (hd : e.descriptor.Accepted) (hf : Fresh e s₀)
    (hutc : s₀.clock.now.offset = some 0)
    (hs : s = (EntityStore.run e steps s₀).2.waited pause) (hmax : 1 ≤ s.paging.largest)
    (hk : id.idText? = some k) (hx : x.idText? = some k)
    (h : (update e id data).on s = (.ok (some told), s')) :
    ∃ now later old reread s'', s.clock.read = .ok (now, later) ∧
      old ∈ s.rows e.schema ∧ Row.id old = .text k ∧
      (Store.getById e x).on s' = (.ok (some reread), s'') ∧
      (∀ n ∈ e.schema.columnNames, n ≠ "updated_at" →
        ∃ v w, reread.lookup n = some v ∧ told.lookup n = some w ∧ Value.Same v w) ∧
      (Record.Same reread told ↔
        (timestampCell now = Row.updated old → later.wholeSeconds = now.instant)) := by
  obtain ⟨hkept, hleads⟩ := hf.reached hd steps pause
  have hperform : ((Call.update id data).perform e).on s = (.ok (.updated (some told)), s') := by
    rw [Call.perform, Action.on_map, h]
    rfl
  have hstood := ((hf.stood.run steps).waited pause).perform (.update id data)
  rw [← hs] at hkept hleads hstood
  have hpaging := paging_perform (e := e) (.update id data) s
  rw [hperform] at hstood hpaging
  have hupdated := updated_of_told hkept hk h
  have hkept' := hkept.of_updated hd hupdated
  obtain ⟨tbl, hready, other, hother, hoid⟩ := hupdated.ready hd hkept
  obtain ⟨answer, s'', hget⟩ := hready.getById hd hx (hpaging ▸ hmax)
  rcases getById_ok hkept'.tabled hkept'.fitted hkept'.distinct hx hget with
    ⟨hnone, -⟩ | ⟨row, hrow, hid, reread, hr, rfl⟩
  · exact absurd hoid (hnone other hother)
  obtain ⟨now, later, old, htime, hold, hid', hrest, hsame⟩ :=
    hupdated.rereads hd hkept (hleads.utc hutc) hstood hrow hid hr
  exact ⟨now, later, old, reread, s'', htime, hold, hid', hget, hrest, hsame⟩

end Reread

/-- One of two records is given another label, and read. -/
theorem label_reread : ∃ told reread s' s'',
    (update labelled (.text (Clock.countedId 1)) (label "b")).on
        ((EntityStore.run labelled twoLabels inMemory).2.waited 0) = (.ok (some told), s') ∧
      (Store.getById labelled (.text (Clock.countedId 1))).on s' = (.ok (some reread), s'') ∧
      Record.Same reread told := by
  generalize hs : (EntityStore.run labelled twoLabels inMemory).2.waited 0 = s
  have hrun : (∀ row ∈ s.rows labelled.schema, timestampCell s.clock.now ≠ Row.updated row) ∧
      1 ≤ s.paging.largest ∧
      ((update labelled (.text (Clock.countedId 1)) (label "b")).on s).1.toOption.join.isSome =
        true := by
    rw [← hs]
    decide +kernel
  obtain ⟨hmoved, hmax, hok⟩ := hrun
  obtain ⟨told, s', h⟩ := told_of_isSome hok
  have hd : labelled.descriptor.Accepted := by
    unfold Descriptor.Accepted
    rfl
  obtain ⟨now, later, old, reread, s'', htime, hold, -, hget, -, hsame⟩ :=
    update_reread (x := .text (Clock.countedId 1)) hd (fresh_inMemory labelled) rfl hs.symm hmax
      rfl rfl h
  refine ⟨told, reread, s', s'', h, hget, hsame.mpr fun hstood => ?_⟩
  rw [(Clock.read_spec htime).1] at hstood
  exact absurd hstood (hmoved old hold)

/-- The moment of the last update that an answer tells. -/
def updatedInstant? : Except Failure (Option Record) → Option ℤ
  | .ok (some r) =>
    match r.lookup "updated_at" with
    | some (.timestamp t) => some t.instant
    | _ => none
  | _ => none

theorem of_updatedInstant? {r : Except Failure (Option Record)} {n : ℤ}
    (h : updatedInstant? r = some n) : ∃ record t, r = .ok (some record) ∧
      record.lookup "updated_at" = some (.timestamp t) ∧ t.instant = n := by
  rcases r with f | _ | record
  · cases h
  · cases h
  rw [updatedInstant?] at h
  split at h
  · rename_i t ht
    cases h
    exact ⟨record, t, rfl, ht, rfl⟩
  · cases h

/-- A store in memory whose clock stands still half a second past midnight. -/
def halted : Store :=
  let now := { Clock.standard.now with micros := 500000, micros_lt := by decide }
  { inMemory with clock := { Clock.standard with now, tick := 0 } }

/-- Where the clock did not move on since a record was made, a change tells the time of the clock and
leaves the whole seconds of the database. -/
theorem halted_renewed : labelled.descriptor.Accepted ∧ Fresh labelled halted ∧
    halted.clock.now.offset = some 0 ∧ ∃ told reread s' s'',
      (update labelled (.text (Clock.countedId 1)) (label "b")).on
          (EntityStore.run labelled [⟨0, .create (label "a")⟩] halted).2 = (.ok (some told), s') ∧
        (Store.getById labelled (.text (Clock.countedId 1))).on s' = (.ok (some reread), s'') ∧
        ¬ Record.Same reread told := by
  have hfresh : Fresh labelled halted := by
    have hdatabase : halted.database? = some {} := by decide +kernel
    refine ⟨?_, rfl⟩
    rw [Store.table?, hdatabase]
    rfl
  refine ⟨?_, hfresh, rfl, ?_⟩
  · unfold Descriptor.Accepted
    rfl
  generalize hs : (EntityStore.run labelled [⟨0, .create (label "a")⟩] halted).2 = s
  have hrun : updatedInstant? ((update labelled (.text (Clock.countedId 1)) (label "b")).on s).1 =
        some halted.clock.now.instant ∧
      updatedInstant? ((Store.getById labelled (.text (Clock.countedId 1))).on
        ((update labelled (.text (Clock.countedId 1)) (label "b")).on s).2).1 =
        some (halted.clock.now.instant - 500000) := by
    rw [← hs]
    decide +kernel
  obtain ⟨htold, hread⟩ := hrun
  rcases hupdate : (update labelled (.text (Clock.countedId 1)) (label "b")).on s with ⟨r, s'⟩
  rw [hupdate] at htold hread
  rcases hget : (Store.getById labelled (.text (Clock.countedId 1))).on s' with ⟨q, s''⟩
  rw [hget] at hread
  obtain ⟨told, t, rfl, ht, htime⟩ := of_updatedInstant? htold
  obtain ⟨reread, u, rfl, hu, hutime⟩ := of_updatedInstant? hread
  refine ⟨told, reread, s', s'', rfl, hget, fun hsame => ?_⟩
  obtain ⟨y, hy, hmoment⟩ := hsame.lookup hu
  rw [ht] at hy
  cases hy
  cases hmoment with
  | refl => omega
  | number q hq => cases hq
  | moment hinstant => omega

end Store

end EntityStore
