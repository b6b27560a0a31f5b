import EntityStore.Connection.Settings
import EntityStore.Proofs.Traversal

/-! # Encryption in production

Settings that are for production never leave encryption to chance. Which deployment settings are for
is told by the environment or by values that are given beside it, and a URL that a command is given
by itself leaves the environment unread.
-/
namespace EntityStore

/-! ## Gathered readings -/

theorem Gathered.and_ok {α β : Type} {f : Gathered (α → β)} {x : Gathered α} {b : β} :
    f.and x = .ok b ↔ ∃ g a, f = .ok g ∧ x = .ok a ∧ g a = b := by
  cases f <;> cases x <;> simp [Gathered.and]

theorem Gathered.within_ok {α : Type} {place : String} {x : Gathered α} {a : α} :
    x.within place = .ok a ↔ x = .ok a := by
  cases x <;> simp [Gathered.within]

theorem Gathered.ofRefusal_ok {α : Type} {x : Except Refusal α} {a : α} :
    Gathered.ofRefusal x = .ok a ↔ x = .ok a := by
  cases x <;> simp [Gathered.ofRefusal, Gathered.refuse]

namespace Reading

variable {α : Type} {entries : Entries} {key : String} {absent a : α} {read : Value → Gathered α}

theorem optional_absent (h : Value.entry? entries key = none) :
    optional entries key absent read = .ok absent := by
  simp [optional, h]

theorem optional_present {v : Value} (h : Value.entry? entries key = some v) :
    optional entries key absent read = .ok a ↔ read v = .ok a := by
  simp [optional, h, Gathered.within_ok]

theorem literal_ok {words : List String} {ofWord? : String → Option α} {w : String} :
    literal words ofWord? (.text w) = .ok a ↔ ofWord? w = some a := by
  cases h : ofWord? w <;> simp [literal, h, Gathered.refuse]

end Reading

namespace Settings

open Reading

variable {entries given : Entries} {environment : Environment} {s : Settings} {url : Option String}

/-! ## What readings of settings promise -/

/-- The modes that always encrypt. -/
def encrypting : List TlsMode := [.require, .verifyCa, .verifyFull]

theorem mem_encrypting_iff {mode : TlsMode} : mode ∈ encrypting ↔ mode.isOptional = false := by
  cases mode <;> decide

/-- How the target, the limits of time, the mode and the deployment are read, and what they satisfy
together. -/
structure ReadFrom (entries : Entries) (s : Settings) : Prop where
  url : optional entries "url" none (nullable text) = .ok s.url
  connectTimeout : optional entries "connect_timeout" (.whole 10) span = .ok s.connectTimeout
  statementTimeout : optional entries "statement_timeout" (.whole 30) span = .ok s.statementTimeout
  tls : optional entries "tls" none
    (nullable (literal (TlsMode.all.map (·.word)) TlsMode.ofWord?)) = .ok s.tls
  environment : optional entries "environment" .development
    (literal (Deployment.all.map (·.word)) Deployment.ofWord?) = .ok s.environment
  together : checkTogether s = .ok s

theorem checkTogether_ok {s' : Settings} (h : checkTogether s = .ok s') : s' = s := by
  unfold checkTogether at h
  split at h
  · cases h
  · split at h
    · split at h
      · cases h
      · exact (Except.ok.inj h).symm
    · exact (Except.ok.inj h).symm

theorem readFrom_of_read (h : read entries = .ok s) : ReadFrom entries s := by
  unfold read at h
  obtain ⟨parts, hparts, hcheck⟩ := bind_ok.mp h
  clear h
  obtain rfl := checkTogether_ok hcheck
  -- one part after another is taken off the end, the first one read last
  obtain ⟨_, _, h12, -, rfl⟩ := Gathered.and_ok.mp hparts
  obtain ⟨_, _, h11, henvironment, rfl⟩ := Gathered.and_ok.mp h12
  obtain ⟨_, _, h10, htls, rfl⟩ := Gathered.and_ok.mp h11
  obtain ⟨_, _, h9, hstatement, rfl⟩ := Gathered.and_ok.mp h10
  obtain ⟨_, _, h8, hconnect, rfl⟩ := Gathered.and_ok.mp h9
  obtain ⟨_, _, h7, -, rfl⟩ := Gathered.and_ok.mp h8
  obtain ⟨_, _, h6, -, rfl⟩ := Gathered.and_ok.mp h7
  obtain ⟨_, _, h5, -, rfl⟩ := Gathered.and_ok.mp h6
  obtain ⟨_, _, h4, -, rfl⟩ := Gathered.and_ok.mp h5
  obtain ⟨_, _, h3, -, rfl⟩ := Gathered.and_ok.mp h4
  obtain ⟨_, _, h2, -, rfl⟩ := Gathered.and_ok.mp h3
  obtain ⟨_, _, h1, -, rfl⟩ := Gathered.and_ok.mp h2
  obtain ⟨_, _, h0, hurl, rfl⟩ := Gathered.and_ok.mp h1
  cases h0
  exact ⟨hurl, hconnect, hstatement, htls, henvironment, hcheck⟩

/-- Settings for production that pass the joint check ask for encryption. -/
theorem sslMode_of_together (h : checkTogether s = .ok s) (hs : s.environment = .production) :
    s.sslMode ∈ encrypting := by
  rw [mem_encrypting_iff, sslMode]
  cases hm : s.tls with
  | none => simp [hs, TlsMode.isOptional]
  | some mode =>
    unfold checkTogether at h
    rw [hs, hm] at h
    by_cases hset : ¬ isSet s.url ∧ ¬ isSet s.database
    · rw [if_pos hset] at h
      cases h
    · rw [if_neg hset] at h
      cases ho : mode.isOptional with
      | false => simpa using ho
      | true =>
        simp only [ho, if_true] at h
        cases h

/-! ## What a command's settings are made of -/

/-- Settings from the environment are settings that were read, of variables and of what is given. -/
theorem read_of_environment (h : ofEnvironment environment given = .ok s) :
    read (environmentEntries environment ++ given.filter fun (_, v) => !v.isNull) = .ok s := by
  unfold ofEnvironment at h
  simp only at h
  split at h
  · cases h
  · rename_i s' hread
    obtain ⟨_, -, rfl⟩ := map_ok.mp h
    exact hread

section Variables

theorem entry?_append (first second : Entries) (key : String) :
    Value.entry? (first ++ second) key =
      (Value.entry? second key).or (Value.entry? first key) := by
  simp [Value.entry?, List.find?_append, Option.map_or]

theorem entry?_singleton (k key : String) (v : Value) :
    Value.entry? [(k, v)] key = if k = key then some v else none := by
  by_cases h : k = key <;> simp [Value.entry?, h]

/-- Where every name sets a key of its own, the entry of a key is what its name has. -/
theorem entry?_named {names : List (String × String)} (value? : String → Option Value)
    (hkeys : (names.map (·.2)).Nodup) {name : String} (h : (name, key) ∈ names) :
    Value.entry? (names.filterMap fun p => (value? p.1).map fun v => (p.2, v)) key =
      value? name := by
  induction names with
  | nil => cases h
  | cons p rest ih =>
    rw [List.map_cons, List.nodup_cons] at hkeys
    have hcons : (p :: rest).filterMap (fun p => (value? p.1).map fun v => (p.2, v)) =
        ((value? p.1).map fun v => (p.2, v)).toList ++
          rest.filterMap fun p => (value? p.1).map fun v => (p.2, v) := by
      cases hv : value? p.1 <;> simp [hv]
    rw [hcons, entry?_append]
    rcases List.mem_cons.mp h with rfl | h
    · have hrest : key ∉ (rest.filterMap fun p => (value? p.1).map fun v => (p.2, v)).map (·.1) := by
        intro hmem
        obtain ⟨q, hq, rfl⟩ := List.mem_map.mp hmem
        obtain ⟨r, hr, hvalue⟩ := List.mem_filterMap.mp hq
        obtain ⟨v, -, rfl⟩ := Option.map_eq_some_iff.mp hvalue
        exact hkeys.1 (List.mem_map.mpr ⟨r, hr, rfl⟩)
      rw [Value.entry?_absent hrest, Option.none_or]
      cases value? name <;> simp [Value.entry?]
    · have hother : p.2 ≠ key := by
        rintro rfl
        exact hkeys.1 (List.mem_map.mpr ⟨_, h, rfl⟩)
      rw [ih hkeys.2 h]
      cases value? p.1 <;> simp [Value.entry?, hother]

/-- The deployment that the environment names is the one that settings of a command are for. -/
theorem entry?_deployment (environment : Environment) (echo : Bool) :
    Value.entry? (environmentEntries environment ++ [("echo", .bool echo)]) "environment" =
      (lookup? environment "ENV").map .text := by
  have hnamed := entry?_named (fun name => (lookup? environment name).map Value.text)
    (by decide : (variableNames.map (·.2)).Nodup) (by decide : ("ENV", "environment") ∈ variableNames)
  simp only [Option.map_map] at hnamed
  rw [entry?_append, entry?_singleton, if_neg (by decide), Option.none_or]
  exact hnamed

end Variables

/-- The settings of a URL alone are for development and name no mode. -/
theorem sslMode_of_url {target : String} {echo : Bool} (h : ofUrl target echo = .ok s) :
    s.url = some target ∧ s.sslMode = .prefer := by
  have hread := readFrom_of_read (mapError_ok.mp h)
  have henvironment := hread.environment
  have htls := hread.tls
  rw [optional_absent (by simp [Value.entry?])] at henvironment htls
  have hurl : (.ok (some target) : Gathered (Option String)) = .ok s.url :=
    (optional_present (v := .text target) (by simp [Value.entry?])).mp hread.url
  constructor
  · exact (Except.ok.inj hurl).symm
  · rw [sslMode, ← Except.ok.inj htls, ← Except.ok.inj henvironment]
    rfl

theorem backend_default (h : s.url = some defaultUrl) : s.backend = .ok "sqlite" := by
  have htarget : (DatabaseUrl.ofText (withDriver defaultUrl)).toOption.map (·.backend) =
      some "sqlite" := by decide +kernel
  have hset : (s.url.filter (! ·.isEmpty)) = some defaultUrl := by
    rw [h]
    decide
  cases hu : DatabaseUrl.ofText (withDriver defaultUrl) with
  | error flaw =>
    rw [hu] at htarget
    cases htarget
  | ok u =>
    rw [hu] at htarget
    have hbackend : u.backend = "sqlite" := Option.some.inj htarget
    simp only [backend, openTarget, targetWith, hset, hu, Except.map, hbackend]

/-! ## Production -/

/-- Where the environment names production, the settings of a command that is not given a URL by itself
are for production, or for the file at hand. -/
theorem resolve_environment {echo : Bool} (hproduction : lookup? environment "ENV" = some "production")
    (hurl : isSet url = false) (h : resolve url echo environment = .ok s) :
    s.sslMode ∈ encrypting ∨ s.backend = .ok "sqlite" := by
  have hnone : url.filter (! ·.isEmpty) = none := by
    cases url with
    | none => rfl
    | some target => simpa [isSet, Option.filter] using hurl
  unfold resolve at h
  rw [hnone] at h
  simp only at h
  split at h
  · have hread := read_of_environment h
    have hgiven : ([("echo", .bool echo)] : Entries).filter (fun (_, v) => !v.isNull) =
        [("echo", .bool echo)] := rfl
    rw [hgiven] at hread
    have hparts := readFrom_of_read hread
    have henvironment := hparts.environment
    rw [optional_present (v := .text "production")
      (by rw [entry?_deployment, hproduction]; rfl), literal_ok] at henvironment
    exact .inl (sslMode_of_together hparts.together (Option.some.inj henvironment).symm)
  · exact .inr (backend_default (sslMode_of_url h).1)

/-- Settings from the environment that are for production always encrypt, whatever is given beside it.
Where the environment names production, so do the settings of a command for a server, exactly if the
command was not given a URL by itself. -/
theorem production_encrypted (environment : Environment) :
    (∀ given s, ofEnvironment environment given = .ok s → s.environment = .production →
      s.sslMode ∈ encrypting) ∧
    ∀ url echo s, lookup? environment "ENV" = some "production" →
      resolve url echo environment = .ok s → s.backend = .ok "postgresql" →
      (s.sslMode ∈ encrypting ↔ isSet url = false) := by
  constructor
  · intro given s h hs
    exact sslMode_of_together (readFrom_of_read (read_of_environment h)).together hs
  · intro url echo s hproduction h hbackend
    constructor
    · intro hmode
      by_contra hset
      cases url with
      | none => simp [isSet] at hset
      | some target =>
        have hgiven : (some target).filter (! ·.isEmpty) = some target := by
          simpa [isSet, Option.filter] using hset
        unfold resolve at h
        rw [hgiven] at h
        rw [(sslMode_of_url h).2] at hmode
        exact absurd hmode (by decide)
    · intro hurl
      rcases resolve_environment hproduction hurl h with hmode | hfile
      · exact hmode
      · rw [hbackend] at hfile
        exact absurd (Except.ok.inj hfile) (by decide)

/-- An environment that names a database and production. -/
def deployed : Environment := [("FORMSCAFFOLD_DB_NAME", "forms"), ("FORMSCAFFOLD_ENV", "production")]

theorem deployed_encrypted : lookup? deployed "ENV" = some "production" ∧
    (∃ s, ofEnvironment deployed [("tls", .text "verify-ca")] = .ok s ∧
      s.environment = .production ∧ s.sslMode ∈ encrypting) ∧
    ∃ s, resolve none false deployed = .ok s ∧ s.backend = .ok "postgresql" ∧
      s.sslMode ∈ encrypting := by
  have hproduction : lookup? deployed "ENV" = some "production" := by decide +kernel
  have hgiven : ofEnvironment deployed [("tls", .text "verify-ca")] =
      .ok { database := some "forms", tls := some .verifyCa, environment := .production } :=
    ok_of_toOption (by decide +kernel)
  have hresolved : resolve none false deployed =
      .ok { database := some "forms", environment := .production } :=
    ok_of_toOption (by decide +kernel)
  have hbackend : ({ database := some "forms", environment := .production } : Settings).backend =
      .ok "postgresql" := ok_of_toOption (by decide +kernel)
  exact ⟨hproduction, ⟨_, hgiven, rfl, (production_encrypted _).1 _ _ hgiven rfl⟩, _, hresolved, hbackend,
    ((production_encrypted _).2 _ _ _ hproduction hresolved hbackend).mpr rfl⟩

/-- A command that is given a URL reaches its server without having to encrypt, also in production. -/
theorem given_url_unencrypted : lookup? deployed "ENV" = some "production" ∧
    ∃ s, resolve (some "postgresql://app@db/forms") false deployed = .ok s ∧
      s.backend = .ok "postgresql" ∧ s.sslMode = .prefer ∧ s.sslMode ∉ encrypting := by
  have hresolved : resolve (some "postgresql://app@db/forms") false deployed =
      .ok { url := some "postgresql://app@db/forms" } := ok_of_toOption (by decide +kernel)
  have hbackend : ({ url := some "postgresql://app@db/forms" } : Settings).backend =
      .ok "postgresql" := ok_of_toOption (by decide +kernel)
  exact ⟨by decide +kernel, _, hresolved, hbackend, rfl, by decide⟩

end Settings

end EntityStore
