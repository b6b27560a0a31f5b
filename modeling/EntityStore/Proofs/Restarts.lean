import EntityStore.Proofs.Moves
import EntityStore.Proofs.Standing

/-! # Restarts

A store that takes its marks away or is closed applies the statements of an entity once more before it
serves it again. Where the database is not lost with the store, and no two entities have triggers of
one name, nobody can tell: every outcome is the one without restarts, and so are the tables.
-/
namespace EntityStore

open Database

/-! ## Names of triggers -/

/-- A number in hexadecimal digits ends in a digit. -/
theorem hex_getLast? (width n : ℕ) :
    ∃ d < 16, (Quoted.hex width n).toList.getLast? = some (Nat.digitChar d) := by
  obtain ⟨init, d, hd, hdigits⟩ : ∃ init d, d < 16 ∧ Nat.toDigits 16 n = init ++ [Nat.digitChar d] := by
    rw [Nat.toDigits_eq_if (by decide)]
    split
    · rename_i hn
      exact ⟨[], n, hn, rfl⟩
    · exact ⟨_, n % 16, Nat.mod_lt _ (by decide), rfl⟩
  refine ⟨d, hd, ?_⟩
  simp [Quoted.hex, hdigits, ← List.append_assoc]

/-- A name that no line break ends is kept by a statement. -/
theorem denoted_of_getLast? {name : String} (h : name.toList.getLast? ≠ some '\n') :
    denoted name = name := by
  by_cases hquotes : Dialect.sqlite.needsQuotes name = true
  · rw [denoted, Dialect.denoted, if_pos hquotes]
  · have hplain : Dialect.isPlainName name = true := by
      by_contra hn
      exact hquotes (by simp [Dialect.needsQuotes, hn])
    refine denoted_eq_self ?_
    unfold Dialect.isPlainName at hplain
    generalize name.toList = letters at h hplain ⊢
    cases letters with
    | nil => simp
    | cons c rest =>
      have hrest : rest.getLast? ≠ some '\n' := by
        intro hlast
        rw [List.getLast?_cons, hlast] at h
        exact h rfl
      simp only [if_neg hrest, Bool.and_eq_true, List.all_eq_true] at hplain
      have hbreak : Dialect.isPlainNameChar '\n' = false := by decide
      intro hmem
      rcases List.mem_cons.mp hmem with rfl | hmem
      · exact absurd hplain.1 (by decide)
      · have hchar := hplain.2 _ hmem
        rw [hbreak] at hchar
        cases hchar

/-- A statement keeps the name of a trigger. -/
theorem denoted_triggerName (name : String) : denoted (triggerName name) = triggerName name := by
  refine denoted_of_getLast? ?_
  unfold triggerName boundedIdentifier
  split
  · have hlast : "_updated_at".toList.getLast? = some 't' := by decide
    rw [String.toList_append, List.getLast?_append, hlast, Option.some_or]
    decide
  · obtain ⟨d, hd, hlast⟩ := hex_getLast? 8 (Sha1.digest ("trg_" ++ name ++ "_updated_at").toUTF8.toList).a
    have hdigit : ∀ d < 16, Nat.digitChar d ≠ '\n' := by decide
    rw [String.toList_append, List.getLast?_append, digestTail, hlast, Option.some_or]
    exact fun hbreak => hdigit d hd (Option.some.inj hbreak)

/-! ## Outcomes -/

/-- What a deed comes to for the one who does it. -/
inductive Deed.Outcome where
  | ensured (r : Except Failure TableSchema)
  | called (r : Except Failure Answer)

def Deed.outcome (e : Registered) (s : Store) : Deed → Deed.Outcome
  | ensure => .ensured ((Store.ensure e).on s).1
  | call step => .called (step.run e s).1

namespace Move

/-- The outcomes of what is done for entities, in their order. -/
def outcomes : List Move → Store → List Deed.Outcome
  | [], _ => []
  | deed e d :: rest, s => d.outcome e s :: outcomes rest (d.after e s)
  | m :: rest, s => outcomes rest (m.after s)

def isDeed : Move → Bool
  | deed .. => true
  | bind _ | reset | close => false

end Move

namespace Store

variable {entities : List Registered} {reg : Registry} {s s' : Store} {e : Registered}
  {r r' : Except Failure TableSchema} {t t' : Store}

/-- A run that goes straight on, and one with restarts in between: the databases differ in the order of
their triggers, what counts as applied in the second run does so in the first one, and what does in the
first one stands. -/
structure Shadows (entities : List Registered) (s s' : Store) : Prop where
  databases : Matches Resembles s s'
  clock : s.clock = s'.clock
  marked : ∀ x ∈ entities, s'.isApplied x = true → s.isApplied x = true
  standing : ∀ x ∈ entities, s.isApplied x = true →
    ∃ db, s.database? = some db ∧ Standing x.schema db

theorem shadows_refl (h : s.applied = []) : Shadows entities s s := by
  have hnone : ∀ x, s.isApplied x = false := by
    intro x
    rw [isApplied, h]
    rfl
  refine ⟨⟨rfl, rfl, rfl, ?_⟩, rfl, fun x _ hx => hx, fun x _ hx => ?_⟩
  · cases hd : s.database? with
    | none => exact .unreached hd hd rfl
    | some db => exact .reached hd hd (.refl db)
  · rw [hnone x] at hx
    cases hx

/-- A move that does nothing for an entity is not seen by the run that leaves it out. -/
theorem Shadows.restart (h : Shadows entities s s') (hs : ¬ s'.Volatile) {m : Move}
    (hm : m.isDeed = false) : Shadows entities s (m.after s') := by
  have hdatabases : ∀ {t}, Matches Eq s' t → Matches Resembles s t := by
    intro t ht
    refine h.databases.trans ht ?_
    rintro db mid after hdb rfl
    exact hdb
  cases m with
  | bind e =>
    obtain ⟨_, _, hbind⟩ := after_bind e s'
    rw [hbind]
    exact ⟨hdatabases (matches_same rfl rfl rfl rfl rfl), h.clock, h.marked, h.standing⟩
  | deed e deed => cases hm
  | reset =>
    rw [after_reset]
    refine ⟨hdatabases (matches_same rfl rfl rfl rfl rfl), h.clock, ?_, h.standing⟩
    intro x _ happlied
    cases happlied
  | close => exact ⟨hdatabases (matches_close hs), h.clock, h.marked, h.standing⟩

/-! ## Ensuring in both runs -/

/-- What was just applied stands. -/
theorem ensure_standing (hs : s.isApplied e = false) (h : (ensure e).on s = (r, t))
    (ht : t.isApplied e = true) : ∃ db, t.database? = some db ∧ Standing e.schema db := by
  cases hd : s.database? with
  | none =>
    obtain ⟨f, hf⟩ := obstacle_of_unreached hd (tellUnreached e.schema)
    rw [ensure_obstacle hs hf] at h
    cases h
    rw [show s.opened.isApplied e = s.isApplied e from rfl, hs] at ht
    cases ht
  | some db =>
    have hset := ensure_settled hd hs h
    refine ⟨_, hset.database, ?_⟩
    have hmarks := hset.applied
    have happ := application e.schema db
    generalize db.applyAll (e.schema.statements .sqlite) = x at hmarks happ
    cases happ with
    | refused hc =>
      rw [isApplied, hmarks, if_neg (by simp)] at ht
      rw [isApplied, ht] at hs
      cases hs
    | made hc htbl => exact standing_made hc htbl

/-- What stands remains while an entity is ensured whose trigger has another name. -/
theorem standing_ensure {x : Registered} {db : Database} (hdb : s.database? = some db)
    (hx : Standing x.schema db) (hs : s.isApplied e = false)
    (hname : sameName (denoted x.schema.trigger) (denoted e.schema.trigger) = false)
    (h : (ensure e).on s = (r, t)) : ∃ db, t.database? = some db ∧ Standing x.schema db :=
  ⟨_, (ensure_settled hdb hs h).database, hx.applyAll hname⟩

/-- Entities that are not the same have triggers of different names. -/
def TriggersApart (entities : List Registered) : Prop :=
  ∀ x ∈ entities, ∀ y ∈ entities, x.place ≠ y.place →
    sameName x.schema.trigger y.schema.trigger = false

theorem TriggersApart.denoted (h : TriggersApart entities) {x y : Registered} (hx : x ∈ entities)
    (hy : y ∈ entities) (hne : x.place ≠ y.place) :
    sameName (Database.denoted x.schema.trigger) (Database.denoted y.schema.trigger) = false := by
  have hkept : ∀ z : Registered, Database.denoted z.schema.trigger = z.schema.trigger :=
    fun z => denoted_triggerName z.descriptor.name
  rw [hkept, hkept]
  exact h x hx y hy hne

/-- Where only the run with restarts applies the statements, it does so to a database where all of it
stands. -/
theorem Shadows.ensure_again (h : Shadows entities s s') (he : e ∈ entities)
    (hs : s.isApplied e = true) (hs' : s'.isApplied e = false)
    (hr : (Store.ensure e).on s' = (r', t')) : r' = .ok e.schema ∧ Shadows entities s t' := by
  obtain ⟨db, hdb, hstanding⟩ := h.standing e he hs
  obtain ⟨db', hdb', hrel⟩ := h.databases.reached hdb
  obtain ⟨after, hafter, hsame⟩ := (hstanding.resembling hrel).again
  have hext := (ensure_spec hr).1.extension
  obtain ⟨hanswer, hdatabase, hmarks⟩ := ensure_settled hdb' hs' hr
  rw [hafter] at hanswer hdatabase hmarks
  refine ⟨hanswer, ⟨h.databases.link.trans hext.link.symm, h.databases.files.trans hext.files.symm,
    h.databases.paging.trans hext.paging.symm, .reached hdb hdatabase (hrel.trans hsame)⟩,
    h.clock.trans hext.clock.symm, fun x hx happlied => ?_, h.standing⟩
  have hmark : x.place = e.place ∨ s'.isApplied x = true := by
    simpa [isApplied, hmarks] using happlied
  rcases hmark with hplace | hx'
  · rwa [isApplied, hplace]
  · exact h.marked x hx hx'

/-- What counts as applied once an entity was ensured stands, if all that counted before did. -/
theorem Shadows.standing_ensured (h : Shadows entities s s') (he : e ∈ entities)
    (hreg : ∀ x ∈ entities, reg.Holds x) (hnames : TriggersApart entities)
    (hs : s.isApplied e = false) (hl : (Store.ensure e).on s = (r, t))
    (hmarks : t.applied = s.applied ∨ t.applied = e.place :: s.applied) {x : Registered}
    (hx : x ∈ entities) (happlied : t.isApplied x = true) :
    ∃ db, t.database? = some db ∧ Standing x.schema db := by
  cases hsx : s.isApplied x with
  | true =>
    have hne : x.place ≠ e.place := by
      intro hplace
      rw [isApplied, hplace] at hsx
      rw [isApplied, hsx] at hs
      cases hs
    obtain ⟨db, hdb, hstanding⟩ := h.standing x hx hsx
    exact standing_ensure hdb hstanding hs (hnames.denoted hx he hne) hl
  | false =>
    -- the mark is new, so it is that of the entity
    have hplace : x.place = e.place := by
      by_contra hne
      rcases hmarks with hleft | hleft
      · rw [isApplied, hleft] at happlied
        rw [isApplied, happlied] at hsx
        cases hsx
      · rcases (by simpa [isApplied, hleft] using happlied : x.place = e.place ∨ x.place ∈ s.applied)
          with hsame | hmem
        · exact hne hsame
        · simp [isApplied, hmem] at hsx
    have hschema : x.schema = e.schema :=
      congrArg TableSchema.ofDescriptor ((hreg x hx).descriptor_eq (hreg e he) hplace)
    rw [isApplied, hplace] at happlied
    rw [hschema]
    exact ensure_standing hs hl happlied

theorem Shadows.ensure (h : Shadows entities s s') (he : e ∈ entities)
    (hreg : ∀ x ∈ entities, reg.Holds x) (hnames : TriggersApart entities)
    (hl : (Store.ensure e).on s = (r, t)) (hr : (Store.ensure e).on s' = (r', t')) :
    r = r' ∧ Shadows entities t t' := by
  cases hs : s.isApplied e with
  | true =>
    rw [ensure_known hs] at hl
    cases hl
    cases hs' : s'.isApplied e with
    | true =>
      rw [ensure_known hs'] at hr
      cases hr
      exact ⟨rfl, h⟩
    | false =>
      obtain ⟨hanswer, hshadows⟩ := h.ensure_again he hs hs' hr
      exact ⟨hanswer.symm, hshadows⟩
  | false =>
    have hs' : s'.isApplied e = false := by
      by_contra hn
      rw [h.marked e he (by simpa using hn)] at hs
      cases hs
    have hclock : t.clock = t'.clock := by
      rw [(ensure_spec hl).1.extension.clock, (ensure_spec hr).1.extension.clock, h.clock]
    obtain ⟨hanswer, hmatch, hmarks⟩ := h.databases.ensure hs hs'
      (fun db db' hdb => hdb.applyAll e.schema) hl hr
    refine ⟨hanswer, hmatch, hclock, fun x hx happlied => ?_, fun x hx happlied =>
      h.standing_ensured he hreg hnames hs hl (hmarks.imp And.left And.left) hx happlied⟩
    rcases hmarks with ⟨hleft, hright⟩ | ⟨hleft, hright⟩
    · rw [isApplied, hright] at happlied
      rw [isApplied, hleft]
      exact h.marked x hx happlied
    · have hmark : x.place = e.place ∨ s'.isApplied x = true := by
        simpa [isApplied, hright] using happlied
      have hleft' : t.isApplied x = true ↔ x.place = e.place ∨ s.isApplied x = true := by
        simp [isApplied, hleft]
      exact hleft'.mpr (hmark.imp_right (h.marked x hx))

/-! ## Calls in both runs -/

theorem sees_resembles (name : String) : Sees name Resembles :=
  ⟨fun _ _ h => h.view name, fun _ _ rows h => h.rewritten name rows⟩

/-- A call whose table is there. -/
theorem Shadows.outcome (h : Shadows entities s s') (call : Call) :
    (Call.outcome e.schema s (call.plan e s.paging s.clock)).1 =
        (Call.outcome e.schema s' (call.plan e s'.paging s'.clock)).1 ∧
      Shadows entities (Call.outcome e.schema s (call.plan e s.paging s.clock)).2
        (Call.outcome e.schema s' (call.plan e s'.paging s'.clock)).2 := by
  obtain ⟨hanswer, hmatch, hclock⟩ := h.databases.outcome (sees_resembles e.schema.denotedName)
    h.clock call
  obtain ⟨hrewrites, happlied⟩ := @outcome_rewrites e call s
  have happlied' := (@outcome_rewrites e call s').2
  refine ⟨hanswer, hmatch, hclock, fun x hx hmarked => ?_, fun x hx hmarked => ?_⟩
  · rw [isApplied, happlied'] at hmarked
    rw [isApplied, happlied]
    exact h.marked x hx hmarked
  · rw [isApplied, happlied] at hmarked
    obtain ⟨db, hdb, hstanding⟩ := h.standing x hx hmarked
    obtain ⟨_, hafter, rows, rfl⟩ := hrewrites.reached hdb
    exact ⟨_, hafter, hstanding.rewritten _ rows⟩

theorem Shadows.perform (h : Shadows entities s s') (he : e ∈ entities)
    (hreg : ∀ x ∈ entities, reg.Holds x) (hnames : TriggersApart entities) (call : Call) :
    ((call.perform e).on s).1 = ((call.perform e).on s').1 ∧
      Shadows entities ((call.perform e).on s).2 ((call.perform e).on s').2 := by
  exact perform_alike call (fun _ _ _ _ hl hr => h.ensure he hreg hnames hl hr)
    fun _ _ hready => hready.outcome call

/-- What is done for an entity has one outcome in both runs. -/
theorem Shadows.deed (h : Shadows entities s s') (he : e ∈ entities)
    (hreg : ∀ x ∈ entities, reg.Holds x) (hnames : TriggersApart entities) (deed : Deed) :
    deed.outcome e s = deed.outcome e s' ∧ Shadows entities (deed.after e s) (deed.after e s') := by
  cases deed with
  | ensure =>
    obtain ⟨hanswer, hafter⟩ := h.ensure he hreg hnames rfl rfl
    exact ⟨congrArg Deed.Outcome.ensured hanswer, hafter⟩
  | call step =>
    have hwaited : Shadows entities (s.waited step.pause) (s'.waited step.pause) := by
      rw [waited_eq, waited_eq, h.clock]
      exact ⟨h.databases.clocks _ _, rfl, h.marked, h.standing⟩
    obtain ⟨hanswer, hafter⟩ := hwaited.perform he hreg hnames step.call
    exact ⟨congrArg Deed.Outcome.called hanswer, hafter⟩

/-- Restarts in between change no outcome and no table. -/
theorem Shadows.run {moves : List Move} (h : Shadows entities s s') (hs : ¬ s'.Volatile)
    (hreg : ∀ x ∈ entities, reg.Holds x) (hnames : TriggersApart entities)
    (hmoves : ∀ m ∈ moves, ∀ x ∈ m.entity?, x ∈ entities) :
    Move.outcomes (moves.filter Move.isDeed) s = Move.outcomes moves s' ∧
      Shadows entities (Move.afterAll (moves.filter Move.isDeed) s) (Move.afterAll moves s') := by
  induction moves generalizing s s' with
  | nil => exact ⟨rfl, h⟩
  | cons m rest ih =>
    have hrest := fun m' hm' => hmoves m' (List.mem_cons_of_mem m hm')
    have hvolatile : ¬ (m.after s').Volatile := fun hm => hs ((volatile_after m).mp hm)
    cases m with
    | deed e deed =>
      obtain ⟨hanswer, hafter⟩ := h.deed (hmoves _ (List.mem_cons_self ..) e rfl) hreg hnames deed
      obtain ⟨houtcomes, hlast⟩ := ih hafter hvolatile hrest
      rw [List.filter_cons_of_pos rfl, Move.outcomes, Move.outcomes, hanswer, houtcomes]
      exact ⟨rfl, hlast⟩
    | bind e => exact ih (h.restart hs rfl) hvolatile hrest
    | reset => exact ih (h.restart hs rfl) hvolatile hrest
    | close => exact ih (h.restart hs rfl) hvolatile hrest

/-- On a database that is not lost when the store is closed, taking the marks away and closing the
store changes no outcome of what is done for entities, and no table. -/
theorem restarts_unseen {moves : List Move} (hs : ¬ s.Volatile) (hunmarked : s.applied = [])
    (hreg : ∀ x ∈ entities, reg.Holds x) (hnames : TriggersApart entities)
    (hmoves : ∀ m ∈ moves, ∀ x ∈ m.entity?, x ∈ entities) :
    Move.outcomes moves s = Move.outcomes (moves.filter Move.isDeed) s ∧
      (Move.afterAll moves s).database?.map (·.tables) =
        (Move.afterAll (moves.filter Move.isDeed) s).database?.map (·.tables) := by
  obtain ⟨houtcomes, hlast⟩ := (shadows_refl hunmarked).run hs hreg hnames hmoves
  refine ⟨houtcomes.symm, ?_⟩
  rcases hlast.databases.databases with ⟨hl, hr, hrel⟩ | ⟨hl, hr, -⟩
  · rw [hl, hr, Option.map_some, Option.map_some, hrel.tables]
  · rw [hl, hr]

/-- An entity whose trigger has another name than that of `narrow`. -/
def noted : Registered := ⟨1, { name := "note", fields := [{ name := "b", kind := .longText }] }⟩

/-- Two entities are served by a store that is closed and reset in between. -/
def reopened : List Move :=
  [.deed narrow (.call ⟨0, .create (.mapping [("a", .text "x")])⟩), .close, .bind noted,
    .deed noted .ensure, .reset, .deed narrow (.call ⟨0, .count .null⟩)]

/-- What is done for the two entities comes to the same without closing and reset. -/
theorem reopened_unseen : ¬ inFile.Volatile ∧ inFile.applied = [] ∧
    (∀ x ∈ [narrow, noted], Registry.Holds ⟨[narrow.descriptor, noted.descriptor]⟩ x) ∧
    TriggersApart [narrow, noted] ∧ (∀ m ∈ reopened, ∀ x ∈ m.entity?, x ∈ [narrow, noted]) ∧
    Move.outcomes reopened inFile = Move.outcomes (reopened.filter Move.isDeed) inFile ∧
    (Move.afterAll reopened inFile).database?.map (·.tables) =
      (Move.afterAll (reopened.filter Move.isDeed) inFile).database?.map (·.tables) := by
  have hreg : ∀ x ∈ [narrow, noted], Registry.Holds ⟨[narrow.descriptor, noted.descriptor]⟩ x := by
    simp [Registry.Holds, narrow, noted]
  have hnames : TriggersApart [narrow, noted] := by
    have hdiffer : sameName narrow.schema.trigger noted.schema.trigger = false := by decide +kernel
    intro x hx y hy hne
    rcases List.mem_pair.mp hx with rfl | rfl
    · rcases List.mem_pair.mp hy with rfl | rfl
      · exact absurd rfl hne
      · exact hdiffer
    · rcases List.mem_pair.mp hy with rfl | rfl
      · rw [sameName_comm]
        exact hdiffer
      · exact absurd rfl hne
  have hmoves : ∀ m ∈ reopened, ∀ x ∈ m.entity?, x ∈ [narrow, noted] := by
    simp [reopened, Move.entity?]
  exact ⟨inFile_lasts, rfl, hreg, hnames, hmoves,
    restarts_unseen inFile_lasts rfl hreg hnames hmoves⟩

end Store

end EntityStore
