import EntityStore.Proofs.Paging

/-! # Records found by their own values

A record is found by a value that it holds if that value, brought into normal form once more, is the
one that its cell holds. This is so for ids and times that the store wrote, and for values that
passed the rules of their field, unless their column rounded them. It fails for a default that the
rules of its field refuse, and for the time that the database writes by itself.
-/
namespace EntityStore

open Database

/-! ## Reading and looking for -/

/-- What a column tells of a cell finds the cell again. -/
inductive Descriptor.Recalls (d : Descriptor) (c : Column) (cell : Cell) (v : Value) : Prop where
  | null (empty : cell = .null)
  | id (column : c.name = "id")
  | created (column : c.name = "created_at")
  | updated (column : c.name = "updated_at") (t : Timestamp) (moment : cell = timestampCell t)
  | field (f : Field) (member : f ∈ d.fields) (column : f.column = c) (x : Value)
    (passes : Rule.value f v = .ok x) (same : cell.equals (c.stored x) = true)

theorem fixedDecimal_ne_null (scale : Option ℕ) (x : Binary64) : fixedDecimal scale x ≠ .null := by
  unfold fixedDecimal
  split <;> exact Value.noConfusion

theorem readCell_null {type : ColumnType} {cell : Cell} {v : Value}
    (h : readCell type cell = .ok v) : v = .null ↔ cell = .null := by
  constructor
  · rintro rfl
    cases cell with
    | null => rfl
    | int n => cases type <;> simp [readCell, plainValue, fixedDecimal_ne_null] at h
    | real x => cases type <;> simp [readCell, plainValue, fixedDecimal_ne_null] at h
    | text s =>
      cases type with
      | date =>
        simp only [readCell] at h
        split at h <;> cases h
      | timestamp =>
        simp only [readCell] at h
        split at h <;> cases h
      | _ => cases h
  · rintro rfl
    cases type <;> (injection h with h; exact h.symm)

/-- A column of moments tells a moment in universal time. -/
theorem readCell_moment {cell : Cell} {v : Value} (hn : cell ≠ .null)
    (h : readCell .timestamp cell = .ok v) : ∃ u : Timestamp, v = .timestamp u ∧ u.toUtc? = some u := by
  cases cell with
  | null => exact absurd rfl hn
  | int n => cases h
  | real x => cases h
  | text s =>
    simp only [readCell] at h
    split at h
    · rename_i u hu
      cases h
      obtain ⟨t, -, ht⟩ := Option.bind_eq_some_iff.mp hu
      exact ⟨u, rfl, by simp only [Timestamp.toUtc?, Timestamp.toUtc?_offset ht]⟩
    · cases h

/-- The text of a moment tells a moment of the same text. -/
theorem readCell_timestampCell {t : Timestamp} {v : Value}
    (h : readCell .timestamp (timestampCell t) = .ok v) :
    ∃ u : Timestamp, v = .timestamp u ∧ timestampCell u = timestampCell t := by
  obtain ⟨s, hs, hr⟩ := timestamp?_timestampCell t
  rw [hs] at h
  simp only [readCell, hr, Option.bind_some, Timestamp.toUtc?] at h
  injection h with h
  exact ⟨{ t with offset := some 0 }, h.symm, rfl⟩

theorem equals_self {cell : Cell} (h : cell ≠ .null) : cell.equals cell = true := by
  rw [Cell.equals_iff]
  cases cell <;> first | exact absurd rfl h | exact ⟨rfl, rfl, rfl⟩

section Meets

variable {d : Descriptor} {tbl : Table} {row : Row} {c : Column} {v : Value}

/-- A moment is found by itself if the store wrote it, and not if the database did. -/
theorem moment_recalled (hd : d.Accepted) {cell : Cell} (hn : cell ≠ .null) {name : String}
    (hname : name = "created_at" ∨ name = "updated_at") (hc : c.type = .timestamp)
    (hv : readCell .timestamp cell = .ok v) :
    (∃ x, d.Normal name v x ∧ cell.equals (c.stored x) = true) ↔ ∃ t, cell = timestampCell t := by
  obtain ⟨u, rfl, hu⟩ := readCell_moment hn hv
  have hnormal : ∀ x, d.Normal name (.timestamp u) x ↔ x = .timestamp u := by
    intro x
    rw [Descriptor.Normal.moment_iff hd hname]
    simp [Value.moment?, hu]
  have hstored := Column.stored_timestamp hc u
  constructor
  · rintro ⟨x, hx, hsame⟩
    rw [(hnormal x).mp hx, hstored] at hsame
    obtain ⟨s, hs, -⟩ := timestamp?_timestampCell u
    rw [hs, Cell.equals_text, decide_eq_true_iff] at hsame
    exact ⟨u, hsame.trans hs.symm⟩
  · rintro ⟨t, rfl⟩
    obtain ⟨w, hw, ht⟩ := readCell_timestampCell hv
    cases hw
    refine ⟨.timestamp u, (hnormal _).mpr rfl, ?_⟩
    rw [hstored, ht]
    exact equals_self hn

theorem Descriptor.Source.created_moment (hd : d.Accepted) {cell : Cell} (h : d.Source c cell)
    (hc : c.name = "created_at") : ∃ t, cell = timestampCell t := by
  cases h with
  | id k => exact absurd hc (by decide)
  | moment name hn t => exact ⟨t, rfl⟩
  | stamp clock => exact absurd hc (by decide)
  | empty f hf => exact absurd hc (Field.column_ne hd hf (by decide))
  | value f hf x hx cell hb => exact absurd hc (Field.column_ne hd hf (by decide))

/-- A row meets the filter of a value that it tells exactly if the value recalls its cell. -/
theorem meets_iff_recalls (hd : d.Accepted) (hm : (TableSchema.ofDescriptor d).Makes tbl)
    (hw : row.length = (TableSchema.ofDescriptor d).columns.length) (hs : d.Sourced row)
    (hc : c ∈ (TableSchema.ofDescriptor d).columns)
    (hv : readCell c.type (tbl.cell row (denoted c.name)) = .ok v) :
    d.Meets row (c.name, v) ↔ d.Recalls c (tbl.cell row (denoted c.name)) v := by
  rw [Descriptor.meets_iff hd hm hc hw]
  have hsource := hs _ ((Table.mem_zip_iff hm.1 hm.2 hw).mpr ⟨hc, rfl⟩)
  generalize tbl.cell row (denoted c.name) = cell at hv hsource ⊢
  by_cases hnull : cell = .null
  · have hvnull := (readCell_null hv).mpr hnull
    exact ⟨fun _ => .null hnull, fun _ => .inl ⟨hvnull, hnull⟩⟩
  · have hvnull : v ≠ .null := fun h => hnull ((readCell_null hv).mp h)
    simp only [hnull, hvnull, and_false, ne_eq, not_false_eq_true, true_and, false_or]
    rcases column_cases hc with rfl | rfl | rfl | ⟨f, hf, rfl⟩
    · obtain ⟨k, rfl⟩ := hsource.id_text hd rfl
      cases hv
      refine ⟨fun _ => .id rfl, fun _ => ⟨.text k, ?_, ?_⟩⟩
      · exact (Descriptor.Normal.id_iff hd).mpr ⟨k, rfl, rfl⟩
      · exact equals_self hnull
    · rw [moment_recalled hd hnull (.inl rfl) rfl hv]
      exact ⟨fun _ => .created rfl, fun _ => hsource.created_moment hd rfl⟩
    · rw [moment_recalled hd hnull (.inr rfl) rfl hv]
      constructor
      · rintro ⟨t, ht⟩
        exact .updated rfl t ht
      · intro h
        cases h with
        | null h => exact absurd h hnull
        | id h => exact absurd h (by decide)
        | created h => exact absurd h (by decide)
        | updated _ t ht => exact ⟨t, ht⟩
        | field f hf hfc => exact absurd (congrArg Column.name hfc) (Field.column_ne hd hf (by decide))
    · constructor
      · rintro ⟨x, hx, hsame⟩
        exact .field f hf rfl x ((Descriptor.Normal.field_iff hd hf).mp hx) hsame
      · intro h
        cases h with
        | null h => exact absurd h hnull
        | id h => exact absurd h (Field.column_ne hd hf (by decide))
        | created h => exact absurd h (Field.column_ne hd hf (by decide))
        | updated h => exact absurd h (Field.column_ne hd hf (by decide))
        | field g hg hgf x hx hsame =>
          obtain rfl := hd.field_eq hg hf (congrArg Column.name hgf)
          exact ⟨x, (Descriptor.Normal.field_iff hd hf).mpr hx, hsame⟩

end Meets

/-! ## Values that passed -/

section Numbers

/-- The nearest number of a quantity has one place among the cells. -/
theorem rank_of_quantity {y z : Binary64} {q : ℚ} (hy : y.toRat? = some q) (hz : z.toRat? = some q) :
    (realCell y).rank = (realCell z).rank := by
  have hreal : ∀ {w : Binary64}, w.toRat? = some q → realCell w = .real w := by
    intro w hw
    cases w <;> first | rfl | cases hw
  rw [hreal hy, hreal hz, Cell.rank, Cell.rank, Cell.level_magnitude hy, Cell.level_magnitude hz]

theorem toRat?_of_quantity {y : Binary64} {q : Quantity} (hf : y.isFinite = true)
    (h : y.quantity? = some q) : ∃ r, q = .ratio r ∧ y.toRat? = some r := by
  cases y with
  | finite s m e hn =>
    rw [Binary64.quantity?, Option.map_eq_some_iff] at h
    · obtain ⟨r, hr, rfl⟩ := h
      exact ⟨r, rfl, hr⟩
    · rintro n ⟨⟩
  | _ => cases hf

/-- Two decimal numbers of one value have one nearest number, but for the sign of zero. -/
theorem rank_of_value {s s' : Bool} {c c' : ℕ} {e e' : ℤ}
    (h : (Decimal.finite s c e).value? = (Decimal.finite s' c' e').value?) :
    (realCell (Binary64.ofScaled s c e)).rank = (realCell (Binary64.ofScaled s' c' e')).rank := by
  have habs : Decimal.scaled c e = Decimal.scaled c' e' := by
    obtain ⟨q, hq⟩ : ∃ q, (Decimal.finite s c e).value? = some q := ⟨_, rfl⟩
    rw [← abs_value hq, ← abs_value (h ▸ hq)]
  by_cases hzero : Decimal.scaled c e = 0
  · have hsigned : ∀ (t : Bool) (k : ℕ) (f : ℤ), Decimal.scaled k f = 0 →
        (Binary64.ofScaled t k f).toRat? = some 0 := by
      intro t k f hk
      have hk : k = 0 := by simpa [Decimal.scaled, zpow_ne_zero] using hk
      rw [hk, Binary64.ofScaled, if_pos rfl, Binary64.toRat?_signedZero]
    exact rank_of_quantity (hsigned s c e hzero) (hsigned s' c' e' (habs ▸ hzero))
  · have hsign : s = s' := by
      have hpos := lt_of_le_of_ne (Decimal.scaled_nonneg c e) (Ne.symm hzero)
      simp only [Decimal.value?, Option.some.injEq] at h
      rw [← habs] at h
      cases s <;> cases s' <;> simp at h ⊢ <;> linarith
    rw [hsign, Binary64.ofScaled_congr s' habs]

variable {f : Field} {x v : Value}

/-- A field keeps its numbers in one form. -/
theorem Field.Passed.number_cases (h : f.Passed x) {q : Quantity} (hq : x.quantity? = some q) :
    f.kind = .integer ∧ (∃ n, x = .int n) ∨
    (f.kind = .decimal ∧ f.storageType.isBinary = true) ∧ (∃ y, x = .float y ∧ y.isFinite = true) ∨
    (f.kind = .decimal ∧ f.storageType.isBinary = false) ∧
      ∃ s c e, x = .decimal (.finite s c e) := by
  cases h with
  | integer n hk => exact .inl ⟨hk, n, rfl⟩
  | binary y hk hst hy => exact .inr (.inl ⟨⟨hk, hst⟩, y, rfl, hy⟩)
  | exact d hk hst hd =>
    cases d with
    | finite s c e => exact .inr (.inr ⟨⟨hk, hst⟩, s, c, e, rfl⟩)
    | _ => cases hd
  | _ => cases hq

/-- Numbers that passed the rules of one field and have one quantity are laid down as one. -/
theorem Field.Passed.rank_nearest (hx : f.Passed x) (hv : f.Passed v) {q : Quantity}
    (hxq : x.quantity? = some q) (hvq : v.quantity? = some q) :
    (realCell x.nearest).rank = (realCell v.nearest).rank := by
  rcases hx.number_cases hxq with ⟨hk, n, rfl⟩ | ⟨⟨hk, hst⟩, y, rfl, hy⟩ | ⟨⟨hk, hst⟩, s, c, e, rfl⟩
  · rcases hv.number_cases hvq with ⟨-, m, rfl⟩ | ⟨⟨hk', -⟩, -⟩ | ⟨⟨hk', -⟩, -⟩
    · rw [← hvq] at hxq
      simp only [Value.quantity?, Option.some.injEq, Quantity.ratio.injEq, Int.cast_inj] at hxq
      rw [hxq]
    · simp [hk] at hk'
    · simp [hk] at hk'
  · rcases hv.number_cases hvq with ⟨hk', -⟩ | ⟨-, z, rfl, hz⟩ | ⟨⟨-, hst'⟩, -⟩
    · simp [hk] at hk'
    · obtain ⟨r, rfl, hyr⟩ := toRat?_of_quantity hy hxq
      obtain ⟨r', hr', hzr⟩ := toRat?_of_quantity hz hvq
      cases hr'
      exact rank_of_quantity hyr hzr
    · simp [hst] at hst'
  · rcases hv.number_cases hvq with ⟨hk', -⟩ | ⟨⟨-, hst'⟩, -⟩ | ⟨-, s', c', e', rfl⟩
    · simp [hk] at hk'
    · simp [hst] at hst'
    · rw [← hvq] at hxq
      simp only [Value.quantity?, Decimal.quantity?, Decimal.value?, Option.map_some,
        Option.some.injEq, Quantity.ratio.injEq] at hxq
      exact rank_of_value (congrArg some hxq)

/-- The place of a stored number is that of its nearest binary number. -/
theorem rank_stored {c : Column} (hb : isBinary c.type = true) (hx : x.isNumber = true) {cell : Cell}
    (hbind : Database.bind c.type x = .ok cell) : (c.stored x).rank = (realCell x.nearest).rank := by
  rw [Column.stored_of_bind hbind, bind_number hb hx hbind]
  rcases isBinary_cases hb with ⟨p, s, ht⟩ | ht
  · rw [ht]
    cases x.nearest <;> first | rfl | exact Cell.rank_wholeReal _
  · have ha : Affinity.ofType c.type = .real := by
      rcases ht with ht | ht <;> rw [ht] <;> rfl
    rw [ha]
    cases x.nearest <;> first | rfl | exact Cell.rank_applied _

end Numbers

section Stored

variable {d : Descriptor} {f : Field} {raw x v : Value} {type : ColumnType} {cell : Cell}

/-- A number that a column keeps is told as a number of its quantity. -/
theorem told_quantity {c : Column} (ht : c.type.Takes x) (hb : Database.bind c.type x = .ok cell)
    (hx : x.isNumber = true) (hbin : isBinary c.type = true) (hk : c.type.Keeps x)
    (hv : readCell c.type (c.stored x) = .ok v) :
    ∃ q, x.quantity? = some q ∧ v.quantity? = some q := by
  obtain ⟨y, hy, hsame⟩ := read_back ht hb
  obtain ⟨z, hz, hvz⟩ := read_reported (Column.stored_of_bind hb) hv
  rw [Column.stored_of_bind hb, hy] at hz
  cases hz
  obtain ⟨q, hq⟩ : ∃ q, x.quantity? = some q := by
    rcases isBinary_cases hbin with ⟨p, s, htype⟩ | htype | htype <;> rw [htype] at hk <;>
      obtain ⟨q, hq, -⟩ := hk hx <;> exact ⟨q, hq⟩
  refine ⟨q, hq, ?_⟩
  exact (Value.same_iff_of_quantity hq).mp (hvz.trans (hsame.mpr hk)).symm

/-- A value that passed the rules of its field is recalled, unless its column rounds it. -/
theorem recalls_of_passed (hd : d.Accepted) (hf : f ∈ d.fields) (hx : Rule.value f raw = .ok x)
    (hv : readCell f.column.type (f.column.stored x) = .ok v)
    (hkept : isBinary f.column.type = true → f.column.type.Keeps x ∧ Rule.value f v = .ok v) :
    d.Recalls f.column (f.column.stored x) v := by
  have hs := hd.sound hf
  obtain ⟨⟨cell, hb⟩, -, hfull⟩ := Field.accepts_value hs hx
  by_cases hnull : f.column.stored x = .null
  · exact .null hnull
  · rcases Rule.value_ok hx with ⟨-, rfl, -⟩ | ⟨-, hpassed⟩
    · exact absurd (Column.stored_null _) hnull
    · cases hbin : isBinary f.column.type with
      | false =>
        obtain ⟨happly, -, hread⟩ := settled_of_takes (Field.takes_of_value hs hx) hb hbin
        rw [Column.stored_of_bind hb, happly, hread] at hv
        cases hv
        exact .field f hf rfl x (Rule.value_stable hx) (equals_self hnull)
      | true =>
        obtain ⟨hkeeps, hpass⟩ := hkept hbin
        have hvnull : v ≠ .null := fun h => hnull ((readCell_null hv).mp h)
        have hvpassed : f.Passed v := by
          rcases Rule.value_ok hpass with ⟨h, -⟩ | ⟨-, h⟩
          · exact absurd h hvnull
          · exact h
        have hxnull : x ≠ .null := by
          rintro rfl
          exact hnull (Column.stored_null _)
        have hxnumber := (isNumber_of_takes (Field.takes_of_value hs hx) hbin).resolve_left hxnull
        have hvnumber := (isNumber_of_takes (Field.takes_of_value hs hpass) hbin).resolve_left hvnull
        obtain ⟨⟨vcell, hvb⟩, -⟩ := Field.accepts_value hs hpass
        obtain ⟨q, hxq, hvq⟩ := told_quantity (Field.takes_of_value hs hx) hb hxnumber hbin hkeeps hv
        refine .field f hf rfl v hpass ?_
        rw [Cell.equals_congr (c := f.column.stored x)]
        · exact equals_self hnull
        · rw [rank_stored hbin hvnumber hvb, rank_stored hbin hxnumber hb]
          exact hvpassed.rank_nearest hpassed hvq hxq

end Stored

/-! ## Finding a record by one of its values -/

namespace Store

variable {e : Registered} {s s' : Store} {tbl : Table}

/-- Whoever reads the same pages from the same place reads the same. -/
theorem Walk.unique {request : ℤ → PageRequest} {n : ℕ} {o : ℤ} {pages pages' : List Page}
    (h : Walk e request n s o pages) (h' : Walk e request n s o pages') : pages = pages' := by
  induction h generalizing pages' with
  | last hread hmore =>
    cases h' with
    | last hread' hmore' =>
      rw [hread] at hread'
      cases hread'
      rfl
    | next hread' hmore' =>
      rw [hread] at hread'
      cases hread'
      rw [hmore] at hmore'
      cases hmore'
  | next hread hmore _ ih =>
    cases h' with
    | last hread' hmore' =>
      rw [hread] at hread'
      cases hread'
      rw [hmore] at hmore'
      cases hmore'
    | next hread' hmore' hrest =>
      rw [hread] at hread'
      cases hread'
      rw [ih hrest]

theorem Walk.first {request : ℤ → PageRequest} {n : ℕ} {o : ℤ} {pages : List Page}
    (h : Walk e request n s o pages) : ∃ page s', (get e (request o)).on s = (.ok page, s') := by
  cases h with
  | last hread => exact ⟨_, _, hread⟩
  | next hread => exact ⟨_, _, hread⟩

theorem conditions_of_get {request : PageRequest} {page : Page} (h : Ready e s tbl)
    (hget : (get e request).on s = (.ok page, s')) :
    ∃ found?, conditions e.descriptor e.schema request.filters = .ok found? := by
  cases (get_spec h.kept.tabled h.kept.fitted hget).2 page rfl with
  | none hunmet => exact ⟨none, hunmet⟩
  | some limit offset found order tbl hsize hmet => exact ⟨some found, hmet⟩

/-- A filter on which a reading does not fail is understood. -/
theorem understands_of_conditions {d : Descriptor} (hd : d.Accepted) {c : Column}
    (hc : c ∈ (TableSchema.ofDescriptor d).columns) {v : Value} {found? : Option (List Condition)}
    (h : conditions d (.ofDescriptor d) (.mapping [(c.name, v)]) = .ok found?) :
    d.Understands [(c.name, v)] := by
  obtain ⟨entries, ⟨⟩, h⟩ := bind_ok.mp h
  obtain ⟨condition?, h, -⟩ := bind_ok.mp h
  obtain ⟨c', hc', h⟩ := bind_ok.mp h
  rw [column_known hd hc] at hc'
  cases hc'
  refine Descriptor.understands_single (mem_columnNames_iff.mpr ⟨c, hc, rfl⟩) fun hv => ?_
  simp only [Value.isNull_of_ne hv, Bool.false_eq_true, if_false] at h
  obtain ⟨found, hfound, -⟩ := bind_ok.mp h
  exact ⟨found, hfound⟩

/-- A record is among the pages that are read with one value as the filter, and is counted. -/
structure Finds (e : Registered) (s : Store) (name : String) (v : Value) (order : String)
    (dir : SortDirection) (n : ℕ) (r : Record) : Prop where
  told : ∃ pages, Walk e (pageAt (.mapping [(name, v)]) order dir n) n s 0 pages ∧
    r ∈ pages.flatMap (·.records)
  counted : ∃ k s', (count e (.mapping [(name, v)])).on s = (.ok k, s') ∧ 1 ≤ k

section Finding

variable {row : Row} {r : Record} {c : Column} {v : Value} {order : String} {dir : SortDirection}
  {n : ℕ}

/-- Of two rows that are told as one record there is but one. -/
theorem Ready.row_unique (hd : e.descriptor.Accepted) (h : Ready e s tbl) {row' : Row}
    (hrow : row ∈ tbl.rows) (hrow' : row' ∈ tbl.rows) (hr : e.schema.record row = .ok r)
    (hr' : e.schema.record row' = .ok r) : row = row' := by
  have hrows := rows_of_table h.table
  rw [← hrows] at hrow hrow'
  obtain ⟨k, hk⟩ := h.kept.id_text hd hrow
  obtain ⟨k', hk'⟩ := h.kept.id_text hd hrow'
  have hid := record_id hr hk
  rw [record_id hr' hk'] at hid
  cases hid
  exact List.inj_on_of_nodup_map h.kept.distinct hrow hrow' (hk.trans hk'.symm)

/-- A record is found by a value of it exactly if its row meets the filter of that value. -/
theorem Ready.finds_iff (hd : e.descriptor.Accepted) (h : Ready e s tbl) (hrow : row ∈ tbl.rows)
    (hr : e.schema.record row = .ok r) (hc : c ∈ e.schema.columns)
    (horder : order ∈ e.descriptor.columnNames) (hn : 1 ≤ n) (hmax : (n : ℤ) ≤ s.paging.largest)
    (hfit : (n : ℤ) ≤ Cell.maxInt) (hrows : (tbl.rows.length : ℤ) ≤ Cell.maxInt) :
    Finds e s c.name v order dir n r ↔ e.descriptor.Meets row (c.name, v) := by
  have hlist : e.descriptor.Understands [(c.name, v)] → ∃ listing,
      Partitions e s (.mapping [(c.name, v)]) [(c.name, v)] order n tbl listing :=
    fun hu => h.partitions hd rfl hu horder hn hmax hfit hrows
  constructor
  · rintro ⟨⟨pages, hwalk, hmem⟩, -⟩
    obtain ⟨page, s', hfirst⟩ := hwalk.first
    obtain ⟨found?, hcond⟩ := conditions_of_get h hfirst
    obtain ⟨listing, hp⟩ := hlist (understands_of_conditions hd hc hcond)
    obtain ⟨pages', hwalk', hrecords, -⟩ := hp.walk dir
    rw [hwalk.unique hwalk', hrecords] at hmem
    obtain ⟨rows, hexact, -, htold⟩ := hp.lists dir
    obtain ⟨row', hrow', hr'⟩ := (mapM_mem htold).mp hmem
    obtain ⟨hmem', hall⟩ := (hexact row').mp hrow'
    rw [h.row_unique hd hrow hmem' hr hr']
    exact hall _ (List.mem_singleton_self _)
  · intro hmeets
    have hu : e.descriptor.Understands [(c.name, v)] := by
      refine Descriptor.understands_single (mem_columnNames_iff.mpr ⟨c, hc, rfl⟩) fun hv => ?_
      have hne : s.rows e.schema ≠ [] := by
        rw [rows_of_table h.table]
        exact List.ne_nil_of_mem hrow
      obtain ⟨c', cell, -, -, ⟨hnull, -⟩ | ⟨-, x, hx, -⟩⟩ := hmeets
      · exact absurd hnull hv
      · exact ⟨_, sought_of_normal hd (h.kept.compiled hne) hx⟩
    obtain ⟨listing, hp⟩ := hlist hu
    obtain ⟨pages, hwalk, hrecords, -⟩ := hp.walk dir
    obtain ⟨rows, hexact, -, htold⟩ := hp.lists dir
    have hlisted : r ∈ listing dir := by
      rw [mapM_mem htold]
      refine ⟨row, (hexact row).mpr ⟨hrow, ?_⟩, hr⟩
      intro p hp
      rw [List.mem_singleton.mp hp]
      exact hmeets
    obtain ⟨s', hcount⟩ := hp.count dir
    exact ⟨⟨pages, hwalk, hrecords ▸ hlisted⟩, _, s', hcount, List.length_pos_of_mem hlisted⟩

theorem Finds.congr {a b : Store} {name : String} (hget : ∀ r : PageRequest, (get e r).on a = (get e r).on b)
    (hcount : ∀ x, (count e x).on a = (count e x).on b) (h : Finds e a name v order dir n r) :
    Finds e b name v order dir n r := by
  obtain ⟨⟨pages, hwalk, hmem⟩, k, s', hk, hpos⟩ := h
  exact ⟨⟨pages, hwalk.congr hget, hmem⟩, k, s', (hcount _).symm.trans hk, hpos⟩

end Finding

/-- A reading that answers has made the table. -/
theorem ensure_of_get {request : PageRequest} {page : Page}
    (h : (get e request).on s = (.ok page, s')) : ∃ t ready, (ensure e).on s = (.ok t, ready) := by
  unfold get at h
  rcases he : (ensure e).on s with ⟨f | t, ready⟩
  · rw [Action.on_bind_error he] at h
    cases h
  · exact ⟨t, ready, rfl⟩

/-- A record that a reading tells is that of a row. -/
theorem row_of_get {request : PageRequest} {page : Page} {r : Record} (hs : s.Tabled e.schema)
    (hw : s.Fitted e.schema) (h : (get e request).on s = (.ok page, s')) (hr : r ∈ page.records) :
    ∃ row ∈ s.rows e.schema, e.schema.record row = .ok r := by
  obtain ⟨hq, hgot⟩ := get_spec hs hw h
  cases hgot page rfl with
  | none _ hrecords =>
    rw [hrecords] at hr
    cases hr
  | some limit offset found order tbl _ _ htable hrecords =>
    obtain ⟨row, hrow, hrecord⟩ := (mapM_mem hrecords).mp hr
    refine ⟨row, ?_, hrecord⟩
    rw [← hq.rows, rows_of_table htable]
    exact List.mem_of_mem_filter (SortOrder.mem_of_mem_cut hrow)

/-- After any run on a new table, a record that a reading tells is found by one of its values exactly
if that value recalls its cell: always by its id, by the time of its creation and by null, by the
time of its last update unless the database wrote it, and by the value of a field if the rules of
the field bring it to what is stored. So it is if the value passed the rules when it came, unless
its column rounded it. -/
theorem record_recalled {s₀ : Store} {steps : List Step} {request : PageRequest} {page : Page}
    {r : Record} {order : String} {n : ℕ} (hd : e.descriptor.Accepted) (hf : Fresh e s₀)
    (hs : s = (EntityStore.run e steps s₀).2) (hget : (get e request).on s = (.ok page, s'))
    (hr : r ∈ page.records) (horder : order ∈ e.descriptor.columnNames) (hn : 1 ≤ n)
    (hmax : (n : ℤ) ≤ s.paging.largest) (hfit : (n : ℤ) ≤ Cell.maxInt)
    (hrows : ((s.rows e.schema).length : ℤ) ≤ Cell.maxInt) :
    ∃ row ∈ s.rows e.schema, e.schema.record row = .ok r ∧
      ∀ c ∈ e.schema.columns, ∃ cell v, (c, cell) ∈ e.schema.columns.zip row ∧
        r.lookup c.name = some v ∧ e.descriptor.Source c cell ∧
        (∀ dir, Finds e s c.name v order dir n r ↔ e.descriptor.Recalls c cell v) ∧
        ∀ f ∈ e.descriptor.fields, f.column = c → ∀ raw x, Rule.value f raw = .ok x →
          cell = c.stored x →
          (isBinary c.type = true → c.type.Keeps x ∧ Rule.value f v = .ok v) →
          e.descriptor.Recalls c cell v := by
  subst hs
  have hk := hf.kept.run hd steps
  obtain ⟨row, hrow, hrecord⟩ := row_of_get hk.tabled hk.fitted hget hr
  obtain ⟨t, ready, he⟩ := ensure_of_get hget
  obtain ⟨tbl, hready, htrows, hpaging⟩ := hf.ready hd steps he
  rw [← hpaging] at hmax
  rw [← htrows] at hrow hrows
  refine ⟨row, htrows ▸ hrow, hrecord, ?_⟩
  intro c hc
  have hm := hready.makes
  have hw := hready.fits row hrow
  have hsourced : e.descriptor.Sourced row := by
    refine hready.kept.sourced row ?_
    rw [rows_of_table hready.table]
    exact hrow
  have hzip := (Table.mem_zip_iff hm.1 hm.2 hw).mpr ⟨hc, rfl⟩
  have hmap := Table.map_cell hm.1 hm.2 hw
  obtain ⟨hnames, hcells⟩ := record_map (by rw [hmap]; exact hrecord)
  obtain ⟨v, hv, hread⟩ := hcells c hc
  refine ⟨_, v, hzip, ?_, hsourced _ hzip, ?_, ?_⟩
  · refine lookup_of_mem ?_ hv
    rw [hnames, columnNames_schema]
    exact hd.columns_distinct
  · intro dir
    rw [← meets_iff_recalls hd hm hw hsourced hc hread,
      ← hready.finds_iff hd hrow hrecord hc horder hn hmax hfit hrows]
    exact ⟨Finds.congr (fun _ => on_ready he _) fun _ => on_ready he _,
      Finds.congr (fun _ => (on_ready he _).symm) fun _ => (on_ready he _).symm⟩
  · rintro f hf' rfl raw x hx hcell hkept
    rw [hcell] at hread ⊢
    exact recalls_of_passed hd hf' hx hread hkept

/-- The texts that the records of a page tell for a field. -/
def toldTexts (field : String) (answer : Except Failure Page) : List String :=
  (answer.toOption.elim [] (·.records)).filterMap fun r =>
    match r.lookup field with
    | some (.text s) => some s
    | _ => none

theorem record_of_toldTexts {field s : String} {answer : Except Failure Page}
    (h : s ∈ toldTexts field answer) :
    ∃ page, answer = .ok page ∧ ∃ r ∈ page.records, r.lookup field = some (.text s) := by
  obtain ⟨r, hr, htold⟩ := List.mem_filterMap.mp h
  cases answer with
  | error f => cases hr
  | ok page =>
    refine ⟨page, rfl, r, hr, ?_⟩
    split at htold
    · rename_i t ht
      cases htold
      exact ht
    · cases htold

/-- A record with a label is found by its label. -/
theorem label_recalled : ∃ page s' r,
    (get labelled (pageAt .null "label" .ascending 1 0)).on
      (EntityStore.run labelled [⟨0, .create (label "a")⟩] inMemory).2 = (.ok page, s') ∧
    r ∈ page.records ∧ r.lookup "label" = some (.text "a") ∧
    Finds labelled (EntityStore.run labelled [⟨0, .create (label "a")⟩] inMemory).2 "label"
      (.text "a") "label" .descending 1 r := by
  have hd : labelled.descriptor.Accepted := by
    unfold Descriptor.Accepted
    rfl
  generalize hs : (EntityStore.run labelled [⟨0, .create (label "a")⟩] inMemory).2 = s
  have hrun : "a" ∈ toldTexts "label" ((get labelled (pageAt .null "label" .ascending 1 0)).on s).1 ∧
      (∀ row ∈ s.rows labelled.schema, ∀ p ∈ labelled.schema.columns.zip row,
        p.1.name = "label" → p.2 = .text "a") ∧
      1 ≤ s.paging.largest ∧ ((s.rows labelled.schema).length : ℤ) ≤ Cell.maxInt := by
    rw [← hs]
    decide +kernel
  obtain ⟨htold, hcell, hmax, hrows⟩ := hrun
  obtain ⟨page, hpage, r, hr, hlabel⟩ := record_of_toldTexts htold
  have hget : (get labelled (pageAt .null "label" .ascending 1 0)).on s =
      (.ok page, ((get labelled (pageAt .null "label" .ascending 1 0)).on s).2) := by
    rw [← hpage]
  obtain ⟨row, hrow, -, hall⟩ := @record_recalled _ _ _ _ _ _ _ _ "label" 1 hd
    (fresh_inMemory labelled) hs.symm hget hr (by decide) le_rfl hmax (by decide) hrows
  let f : Field := { name := "label", kind := .shortText }
  obtain ⟨cell, v, hzip, hv, -, hfinds, hpassed⟩ := hall f.column (by decide)
  have hf : f ∈ labelled.descriptor.fields := List.mem_singleton_self f
  have hstored : cell = f.column.stored (.text "a") := hcell row hrow _ hzip rfl
  have hrecalls := hpassed f hf rfl (.text "a") (.text "a") rfl hstored (fun h => by cases h)
  rw [show r.lookup f.column.name = some (.text "a") from hlabel] at hv
  cases hv
  exact ⟨page, _, r, hget, hr, hlabel, (hfinds .descending).mpr hrecalls⟩

/-- An entity with a label whose default does not have the form that the label must have. -/
def prefixed : Registered :=
  ⟨0, { name := "t", fields := [
    { name := "label", kind := .shortText, rules := { pattern := some "^x" },
      storage := { default := some (.text "abc") } }] }⟩

/-- A default is stored though the rules of its field refuse it, and no filter finds it then. -/
theorem refused_default_unfound : prefixed.descriptor.Accepted ∧ Fresh prefixed inMemory ∧
    "abc" ∈ toldTexts "label" ((get prefixed (pageAt .null "label" .ascending 1 0)).on
      (EntityStore.run prefixed [⟨0, .create (.mapping [])⟩] inMemory).2).1 ∧
    ((count prefixed (label "abc")).on
      (EntityStore.run prefixed [⟨0, .create (.mapping [])⟩] inMemory).2).1.toOption = some 0 := by
  refine ⟨?_, fresh_inMemory prefixed, ?_⟩
  · unfold Descriptor.Accepted
    rfl
  · decide +kernel

end Store

end EntityStore
