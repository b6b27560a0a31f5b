import EntityStore.Connection.Link
import EntityStore.Proofs.Parameters
import EntityStore.Proofs.Traversal

/-! # Secrecy

What settings show of themselves, and what a password has to do with it. The password of a user never shows,
wherever it comes from. What stands in the query of a URL always does.
-/

namespace EntityStore

namespace DatabaseUrl

/-- A URL with its password hidden. -/
def masked (u : DatabaseUrl) : DatabaseUrl :=
  { u with password := u.password.map fun _ => "***" }

theorem display_masked (u : DatabaseUrl) : u.masked.display = u.display := by
  cases u with
  | mk driver username password host port database query => cases password <;> rfl

theorem ofParts_masked (driver : List Char) (user : Option (List Char)) (p p' rest : List Char) :
    (ofParts driver (user, some p, rest)).map masked =
      (ofParts driver (user, some p', rest)).map masked := by
  simp only [ofParts]
  cases (splitPort (splitHost rest).2).1.mapM readPort <;> rfl

theorem display_query {query : List (String × List String)} (u : DatabaseUrl) (h : query ≠ []) :
    { u with query := query }.display =
      { u with query := [] }.display ++ ("?" ++ queryString query) := by
  have hquery : query.isEmpty = false := by simpa using h
  simp [display, render, hquery]

/-- A URL but for the password of its user. -/
structure UserFrame where
  scheme : List Char
  user : List Char
  rest : List Char
  scheme_driver : ∀ c ∈ scheme, isDriverChar c = true
  user_run : ∀ c ∈ user, inRun c = true

def UserFrame.text (frame : UserFrame) (password : List Char) : String :=
  String.ofList (frame.scheme ++ ':' :: '/' :: '/' ::
    (frame.user ++ ':' :: (password ++ '@' :: frame.rest)))

/-- A URL but for the value of the password among its parameters. -/
structure QueryFrame where
  scheme : List Char
  base : List Char
  before : List Char
  after : List Char
  scheme_driver : ∀ c ∈ scheme, isDriverChar c = true
  base_query : '?' ∉ base
  placed : Placed before after
  before_line : '\n' ∉ before
  signs : '@' ∉ before ∧ '@' ∉ after

def passwordKey : List Char := "password".toList

def QueryFrame.text (frame : QueryFrame) (value : List Char) : String :=
  String.ofList (frame.scheme ++ ':' :: '/' :: '/' ::
    (frame.base ++ '?' :: (frame.before ++ (passwordKey ++ '=' :: value ++ frame.after))))

/-- The text of a parameter. -/
structure IsValue (value : List Char) : Prop where
  given : value ≠ []
  divider : '&' ∉ value
  sign : '@' ∉ value
  line : '\n' ∉ value

/-- One template has the queries of all the values. -/
theorem QueryFrame.readQuery_text (frame : QueryFrame) : ∃ t : Template,
    Has t "password" none ∧ ∀ value, IsValue value →
      readQuery ('?' :: (frame.before ++ (passwordKey ++ '=' :: value ++ frame.after))) =
        t.fill (queryText value) := by
  have hall : passwordKey.all (fun c => c ≠ '=' && c ≠ '&' && c ≠ '\n') = true := by decide
  have hname : ∀ c ∈ passwordKey, c ≠ '=' ∧ c ≠ '&' ∧ c ≠ '\n' := by
    simpa [and_assoc] using hall
  obtain ⟨t, hopen, hread⟩ := readQuery_value frame.placed frame.before_line hname
  have hkey : queryText passwordKey = "password" := by decide +kernel
  exact ⟨t, hkey ▸ hopen, fun value h => hread value h.given h.divider h.line⟩

end DatabaseUrl

namespace Settings

open DatabaseUrl

variable {s s' : Settings}

/-- The same settings for another URL. -/
def withUrl (s : Settings) (url : String) : Settings := { s with url := some url }

/-! ## What is shown -/

structure Views where
  display : Except Failure String
  connection : Except Failure String
  summary : String

/-- What is shown of settings: their URL, the URL of their connection, and the settings as a text. -/
def views (s : Settings) : Views where
  display := s.displayUrl
  connection := (Link.ofSettings s).bind Link.url
  summary := s.summary

theorem displayUrl_masked (s : Settings) :
    s.displayUrl = (s.openTarget.map masked).map DatabaseUrl.display := by
  rw [displayUrl]
  cases s.openTarget with
  | error f => rfl
  | ok u => exact congrArg Except.ok (display_masked u).symm

theorem backend_openTarget (s : Settings) :
    s.backend = (s.openTarget.map masked).map DatabaseUrl.backend := by
  rw [backend]
  cases s.openTarget <;> rfl

theorem connection_eq (s : Settings) : (Link.ofSettings s).bind Link.url =
    s.backend.bind fun word => match Dialect.ofWord? word with
      | some _ => s.displayUrl
      | none => .error (.noted .connection
        ("Unsupported database dialect: " ++ word ++ ". Supported: "
          ++ String.intercalate ", " (Dialect.all.map (·.word))) []) := by
  rw [Link.ofSettings]
  cases s.backend with
  | error f => rfl
  | ok word =>
    simp only [bind, Except.bind]
    cases Dialect.ofWord? word <;> rfl

/-- Only the target with its password hidden, and the settings beside it, are shown. -/
theorem views_congr (h : s.openTarget.map masked = s'.openTarget.map masked)
    (hsummary : s.summary = s'.summary) : s.views = s'.views := by
  have hdisplay : s.displayUrl = s'.displayUrl := by rw [displayUrl_masked, h, ← displayUrl_masked]
  have hbackend : s.backend = s'.backend := by rw [backend_openTarget, h, ← backend_openTarget]
  simp only [views, connection_eq, hdisplay, hbackend, hsummary]

/-! ## Targets -/

theorem openTarget_url {scheme : List Char} (h : ∀ c ∈ scheme, isDriverChar c = true)
    (s : Settings) (rest : List Char) :
    (s.withUrl (String.ofList (scheme ++ ':' :: '/' :: '/' :: rest))).openTarget =
      (ofText (String.ofList (spelled scheme ++ ':' :: '/' :: '/' :: rest))).mapError fun flaw =>
        .noted .configuration ("Invalid database URL: " ++ flaw.message) [] := by
  have hset : (some (String.ofList (scheme ++ ':' :: '/' :: '/' :: rest))).filter (! ·.isEmpty) =
      some (String.ofList (scheme ++ ':' :: '/' :: '/' :: rest)) := by
    rw [Option.filter_some, if_pos]
    simp [← String.toList_inj]
  simp only [withUrl, openTarget, targetWith, hset, withDriver_scheme h]
  cases ofText (String.ofList (spelled scheme ++ ':' :: '/' :: '/' :: rest)) <;> rfl

theorem map_mapError {α β ε δ : Type} (x : Except ε α) (f : ε → δ) (g : α → β) :
    (x.mapError f).map g = (x.map g).mapError f := by
  cases x <;> rfl

theorem openTarget_user (s : Settings) (frame : UserFrame) {p p' : List Char} (hp : '@' ∉ p)
    (hp' : '@' ∉ p') : (s.withUrl (frame.text p)).openTarget.map masked =
      (s.withUrl (frame.text p')).openTarget.map masked := by
  rw [UserFrame.text, UserFrame.text, openTarget_url frame.scheme_driver,
    openTarget_url frame.scheme_driver, ofText_scheme (spelled_driver frame.scheme_driver),
    ofText_scheme (spelled_driver frame.scheme_driver), splitUser_secret frame.user_run hp,
    splitUser_secret frame.user_run hp']
  split
  · rfl
  · have hparts := ofParts_masked (spelled frame.scheme) (some frame.user) p p' frame.rest
    rw [map_mapError, map_mapError, hparts]

/-- The targets of one frame differ in their queries, if they have any. -/
theorem openTarget_query (s : Settings) (frame : QueryFrame) : ∃ t : Template, Has t "password" none ∧
    ∀ value, IsValue value → (s.withUrl (frame.text value)).openTarget =
      ((ofText (String.ofList (spelled frame.scheme ++ ':' :: '/' :: '/' :: frame.base))).mapError
        fun flaw => .noted .configuration ("Invalid database URL: " ++ flaw.message) []).map fun u =>
          { u with query := if Clear frame.base then t.fill (queryText value) else [] } := by
  obtain ⟨t, hopen, hread⟩ := frame.readQuery_text
  refine ⟨t, hopen, ?_⟩
  intro value hvalue
  have hsign : '@' ∉ frame.before ++ (passwordKey ++ '=' :: value ++ frame.after) := by
    simp only [List.mem_append, List.mem_cons, not_or]
    exact ⟨frame.signs.1, ⟨by decide, by decide, hvalue.sign⟩, frame.signs.2⟩
  rw [QueryFrame.text, openTarget_url frame.scheme_driver,
    ofText_query (spelled_driver frame.scheme_driver) frame.base_query hsign, hread value hvalue,
    map_mapError]

theorem display_of_openTarget {u : DatabaseUrl} (h : s.openTarget = .ok u) :
    s.views.display = .ok u.display := by
  simp only [views, displayUrl, h, Except.map]

/-- A password among the parameters of a URL shows, unless it is not read at all. -/
theorem views_query_iff (s : Settings) (frame : QueryFrame) {v v' : List Char} {u : DatabaseUrl}
    (hv : IsValue v) (hv' : IsValue v')
    (hu : (s.withUrl (frame.text v)).openTarget = .ok u) :
    (s.withUrl (frame.text v)).views = (s.withUrl (frame.text v')).views ↔
      u.query = [] ∨ queryText v = queryText v' := by
  obtain ⟨t, hopen, htarget⟩ := openTarget_query s frame
  obtain ⟨b, hb, rfl⟩ := map_ok.mp ((htarget v hv).symm.trans hu)
  have hu' := htarget v' hv'
  rw [hb, Except.map] at hu'
  by_cases hclear : Clear frame.base
  · have hne : ∀ w, t.fill w ≠ [] := by
      intro w hempty
      obtain ⟨vs, hmem, -⟩ := hopen
      rw [List.map_eq_nil_iff.mp hempty] at hmem
      cases hmem
    simp only [if_pos hclear] at hu hu' ⊢
    constructor
    · intro hviews
      have hdisplay := congrArg Views.display hviews
      rw [display_of_openTarget hu, display_of_openTarget hu', Except.ok.injEq,
        display_query b (hne _), display_query b (hne _), String.append_right_inj,
        String.append_right_inj, Template.queryString_fill_inj hopen] at hdisplay
      exact .inr hdisplay
    · rintro (hempty | htext)
      · exact absurd hempty (hne _)
      · exact views_congr (by rw [hu, hu', htext]) rfl
  · simp only [if_neg hclear] at hu hu' ⊢
    exact ⟨fun _ => .inl trivial, fun _ => views_congr (by rw [hu, hu']) rfl⟩

/-! ## Password files -/

theorem password_isSome {files : Files} {p : Option String} (h : s.password files = .ok p) :
    p.isSome = s.passwordFile.isSome := by
  rw [password] at h
  cases hfile : s.passwordFile with
  | none =>
    simp only [hfile] at h
    cases h
    rfl
  | some path =>
    simp only [hfile] at h
    split at h
    · cases h
      rfl
    all_goals cases h

/-- The target is a URL that is given, or one that is made of parts and has the password of the file. -/
theorem target_cases (s : Settings) : (∀ files, s.target files = s.openTarget) ∨
    ∃ b : DatabaseUrl, s.openTarget = .ok { b with password := none } ∧
      ∀ files, s.target files = (s.password files).map fun p => { b with password := p } := by
  cases hurl : s.url.filter (! ·.isEmpty) with
  | some url =>
    refine .inl fun files => ?_
    simp only [target, openTarget, targetWith, hurl]
  | none =>
    let b : DatabaseUrl := {
      driver := "postgresql+psycopg"
      username := s.user
      host := some s.host
      port := some s.port
      database := s.database }
    refine .inr ⟨b, ?_, fun files => ?_⟩
    · simp only [openTarget, targetWith, hurl, Except.map, b]
    · simp only [target, targetWith, hurl, b]

/-- What is shown of a target tells nothing of the file that its password is from. -/
theorem target_masked {files files' : Files} {u u' : DatabaseUrl} (h : s.target files = .ok u)
    (h' : s.target files' = .ok u') : u.masked = u'.masked ∧
      (s.views.display = .ok u.display ∨ s.views.display = .ok { u with password := none }.display) := by
  rcases target_cases s with hopen | ⟨b, hopen, htarget⟩
  · rw [hopen] at h h'
    obtain rfl := Except.ok.inj (h.symm.trans h')
    exact ⟨rfl, .inl (display_of_openTarget h)⟩
  · rw [htarget] at h h'
    obtain ⟨p, hp, rfl⟩ := map_ok.mp h
    obtain ⟨p', hp', rfl⟩ := map_ok.mp h'
    refine ⟨?_, .inr (display_of_openTarget hopen)⟩
    have hset : p.isSome = p'.isSome := (password_isSome hp).trans (password_isSome hp').symm
    cases p <;> cases p' <;> first | rfl | cases hset

/-- Passwords of users and of files never show. A password among the parameters of a URL shows, unless the
parameters are passed over. -/
theorem passwords_shown_iff (s : Settings) :
    (∀ (frame : UserFrame) p p', '@' ∉ p → '@' ∉ p' →
      (s.withUrl (frame.text p)).views = (s.withUrl (frame.text p')).views) ∧
    (∀ files files' u u', s.target files = .ok u → s.target files' = .ok u' →
      u.masked = u'.masked ∧ (s.views.display = .ok u.display ∨
        s.views.display = .ok { u with password := none }.display)) ∧
    ∀ (frame : QueryFrame) v v' u, IsValue v → IsValue v' →
      (s.withUrl (frame.text v)).openTarget = .ok u →
      ((s.withUrl (frame.text v)).views = (s.withUrl (frame.text v')).views ↔
        u.query = [] ∨ queryText v = queryText v') :=
  ⟨fun frame _ _ hp hp' => views_congr (openTarget_user s frame hp hp') rfl,
    fun _ _ _ _ => target_masked, fun frame _ _ _ => views_query_iff s frame⟩

/-- A URL whose user has a password, and a URL that has it among its parameters. -/
def signedIn : UserFrame :=
  ⟨"postgresql".toList, "app".toList, "db/forms".toList, List.all_eq_true.mp (by decide),
    List.all_eq_true.mp (by decide)⟩

def parameterized : QueryFrame :=
  ⟨"postgresql".toList, "app@db/forms".toList, [], [], List.all_eq_true.mp (by decide), by decide,
    ⟨.inl rfl, .inl rfl⟩, by decide, by decide⟩

/-- Settings with a password file, and the file. -/
def filed : Settings := { database := some "forms", user := some "app", passwordFile := some "secret" }

def filesWith (password : String) : Files :=
  ⟨[("secret", .file password.toUTF8.toList)]⟩

/-- The target of `parameterized`, without and with a query. -/
def parameterizedBase : DatabaseUrl where
  driver := "postgresql+psycopg"
  username := some "app"
  host := some "db"
  database := some "forms"

def parameterizedUrl (password : String) : DatabaseUrl :=
  { parameterizedBase with query := [("password", [password])] }

theorem display_parameterizedUrl (password : String) : (parameterizedUrl password).display =
    "postgresql+psycopg://app@db/forms?password=" ++ encodeQuery password := by
  have hname : encodeName "app" = "app" := by decide +kernel
  have hdatabase : encodeDatabase "forms" = "forms" := by decide +kernel
  have hkey : encodeQuery "password" = "password" := by decide +kernel
  have hhead : { parameterizedBase with query := [] }.display = "postgresql+psycopg://app@db/forms" := by
    simp [parameterizedBase, DatabaseUrl.display, render, hostText, hname, hdatabase]
  have hquery : queryString [("password", [password])] = "password=" ++ encodeQuery password := by
    simp [queryString, hkey]
  rw [parameterizedUrl, display_query parameterizedBase (by simp), hhead, hquery,
    ← String.append_assoc, ← String.append_assoc]
  exact congrArg (· ++ encodeQuery password) (by decide)

/-- The target of `filed` with a password. -/
def filedTarget (password : String) : DatabaseUrl where
  driver := "postgresql+psycopg"
  username := some "app"
  password := some password
  host := some "localhost"
  port := some 5432
  database := some "forms"

theorem passwords_hidden :
    (filed.withUrl (signedIn.text "hunter2".toList)).views =
      (filed.withUrl (signedIn.text "%40ther".toList)).views ∧
    filed.target (filesWith "hunter2\n") = .ok (filedTarget "hunter2") ∧
    filed.target (filesWith "other") = .ok (filedTarget "other") ∧
    (filedTarget "hunter2").masked = (filedTarget "other").masked ∧
    IsValue "hunter2".toList ∧ IsValue "hunter%32".toList ∧
    (filed.withUrl (parameterized.text "hunter2".toList)).views =
      (filed.withUrl (parameterized.text "hunter%32".toList)).views := by
  have hvalue : IsValue "hunter2".toList := ⟨by decide, by decide, by decide, by decide⟩
  have hvalue' : IsValue "hunter%32".toList := ⟨by decide, by decide, by decide, by decide⟩
  have hopen : (filed.withUrl (parameterized.text "hunter2".toList)).openTarget =
      .ok (parameterizedUrl "hunter2") := ok_of_toOption (by decide +kernel)
  have htarget : filed.target (filesWith "hunter2\n") = .ok (filedTarget "hunter2") :=
    ok_of_toOption (by decide +kernel)
  have htarget' : filed.target (filesWith "other") = .ok (filedTarget "other") :=
    ok_of_toOption (by decide +kernel)
  have hdecoded : queryText "hunter2".toList = queryText "hunter%32".toList := by decide +kernel
  obtain ⟨huser, hfile, hquery⟩ := passwords_shown_iff filed
  exact ⟨huser signedIn _ _ (by decide) (by decide), htarget, htarget', (hfile _ _ _ _ htarget htarget').1,
    hvalue, hvalue', (hquery parameterized _ _ _ hvalue hvalue' hopen).mpr (.inr hdecoded)⟩

/-- A password among the parameters shows. -/
theorem parameter_shown :
    (filed.withUrl (parameterized.text "hunter2".toList)).views.display =
      .ok "postgresql+psycopg://app@db/forms?password=hunter2" ∧
    (filed.withUrl (parameterized.text "swordfish".toList)).views.display =
      .ok "postgresql+psycopg://app@db/forms?password=swordfish" := by
  have hopen : (filed.withUrl (parameterized.text "hunter2".toList)).openTarget =
      .ok (parameterizedUrl "hunter2") := ok_of_toOption (by decide +kernel)
  have hopen' : (filed.withUrl (parameterized.text "swordfish".toList)).openTarget =
      .ok (parameterizedUrl "swordfish") := ok_of_toOption (by decide +kernel)
  rw [display_of_openTarget hopen, display_of_openTarget hopen', display_parameterizedUrl,
    display_parameterizedUrl]
  exact ⟨congrArg _ (by decide +kernel), congrArg _ (by decide +kernel)⟩

end Settings

end EntityStore
