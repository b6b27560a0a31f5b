import EntityStore.Connection.Files
import EntityStore.Connection.Url
import EntityStore.Reading
import EntityStore.Text.Parts

/-!
# Database settings

Where the database is and how it is reached: by a URL, or by host, port, database and user with a
password in a file. Settings are read from a mapping or from environment variables; a password is
never part of them.
-/

namespace EntityStore

/-- How a server connection is secured. -/
inductive TlsMode where
  | disable
  | prefer
  | require
  | verifyCa
  | verifyFull
  deriving DecidableEq, Repr

namespace TlsMode

def all : List TlsMode := [disable, prefer, require, verifyCa, verifyFull]

def word : TlsMode → String
  | disable => "disable"
  | prefer => "prefer"
  | require => "require"
  | verifyCa => "verify-ca"
  | verifyFull => "verify-full"

def ofWord? (w : String) : Option TlsMode := all.find? (·.word = w)

/-- Whether a connection without encryption is possible. -/
def isOptional : TlsMode → Bool
  | disable | prefer => true
  | _ => false

end TlsMode

inductive Deployment where
  | development
  | test
  | production
  deriving DecidableEq, Repr

namespace Deployment

def all : List Deployment := [development, test, production]

def word : Deployment → String
  | development => "development"
  | test => "test"
  | production => "production"

def ofWord? (w : String) : Option Deployment := all.find? (·.word = w)

end Deployment

/-- A span of time: a standard one in whole seconds, or one that was given. -/
inductive Seconds where
  | whole (n : Nat)
  | given (x : Binary64)
  deriving DecidableEq, Repr

namespace Seconds

def toValue : Seconds → Value
  | whole n => .int n
  | given x => .float x

def text : Seconds → String
  | whole n => toString n
  | given x => x.toText

/-- Whole seconds, rounded up. -/
def ceil? : Seconds → Option Int
  | whole n => some n
  | given x => x.ceil?

/-- Whole milliseconds, rounded down. -/
def millis? : Seconds → Option Int
  | whole n => some (n * 1000 : Nat)
  | given x => (x.scale 1000).truncate?

end Seconds

structure Settings where
  url : Option String := none
  host : String := "localhost"
  port : Int := 5432
  database : Option String := none
  user : Option String := none
  passwordFile : Option String := none
  poolSize : Int := 10
  idleTimeout : Seconds := .whole 20
  connectTimeout : Seconds := .whole 10
  statementTimeout : Seconds := .whole 30
  tls : Option TlsMode := none
  environment : Deployment := .development
  echo : Bool := false
  deriving DecidableEq, Repr

namespace Settings

open Reading

/-! ## Reading -/

/-- An integer from `low` up, and not above `high` where there is such a bound. -/
def integerBetween (low : Int) (high : Option Int) (v : Value) : Gathered Int :=
  .ofRefusal <| (Coercion.integer v).bind fun n =>
    if high.any (· < n) then .error (.aboveMaximum (((high.map toString).getD "")))
    else if n < low then .error (.belowMinimum (toString low))
    else .ok n

def isPositive : Binary64 → Bool
  | .finite negative mant _ _ => !negative && mant ≠ 0
  | .infinity negative => !negative
  | .nan => false

/-- A span above zero; an endless one is allowed. -/
def span (v : Value) : Gathered Seconds :=
  .ofRefusal <| (Coercion.float v).bind fun x =>
    if isPositive x then .ok (.given x) else .error (.belowLeast "0")

def path (v : Value) : Gathered String :=
  match Coercion.textLike? v with
  | some (.ok s) => .ok (Files.normalPath s)
  | _ => .refuse .notPath

def isSet (part : Option String) : Bool := part.any (! ·.isEmpty)

/-- What the parts must satisfy together. -/
def checkTogether (s : Settings) : Gathered Settings :=
  if ¬ isSet s.url ∧ ¬ isSet s.database then
    .refuse (.inconsistent "either url or database must be set")
  else
    match s.environment, s.tls with
    | .production, some mode =>
      if mode.isOptional then
        .refuse (.inconsistent ("tls '" ++ mode.word ++ "' is not allowed in production"))
      else .ok s
    | _, _ => .ok s

/-- Reads settings; entries of other names are passed over. -/
def read (entries : Entries) : Gathered Settings :=
  let parts :=
    Gathered.and (.ok Settings.mk) (optional entries "url" none (nullable text))
      |>.and (optional entries "host" "localhost" text)
      |>.and (optional entries "port" 5432 (integerBetween 1 (some 65535)))
      |>.and (optional entries "database" none (nullable text))
      |>.and (optional entries "user" none (nullable text))
      |>.and (optional entries "password_file" none (nullable path))
      |>.and (optional entries "pool_size" 10 (integerBetween 1 none))
      |>.and (optional entries "idle_timeout" (.whole 20) span)
      |>.and (optional entries "connect_timeout" (.whole 10) span)
      |>.and (optional entries "statement_timeout" (.whole 30) span)
      |>.and (optional entries "tls" none
        (nullable (literal (TlsMode.all.map (·.word)) TlsMode.ofWord?)))
      |>.and (optional entries "environment" .development
        (literal (Deployment.all.map (·.word)) Deployment.ofWord?))
      |>.and (optional entries "echo" false flag)
  parts.bind checkTogether

def ofEntries (entries : Entries) : Except Failure Settings :=
  (read entries).mapError .settings

/-- The settings of a URL alone. -/
def ofUrl (url : String) (echo : Bool) : Except Failure Settings :=
  ofEntries [("url", .text url), ("echo", .bool echo)]

/-! ## The target -/

/-- A URL that begins with one scheme, with another one in its place. -/
def respelled (scheme new url : String) : String :=
  if url.startsWith scheme then new ++ String.ofList (url.toList.drop scheme.length) else url

/-- A URL of a server names the driver in use, if it names none. -/
def withDriver (url : String) : String :=
  respelled "postgresql://" "postgresql+psycopg://" (respelled "postgres://" "postgresql://" url)

/-- The password in the file, without blanks around it. -/
def password (files : Files) (s : Settings) : Except Failure (Option String) :=
  match s.passwordFile with
  | none => .ok none
  | some path =>
    match files.readText path with
    | .ok text =>
      .ok (some (String.ofList (trimBlanks text.toList)))
    | .error (.unopened fault) =>
      .error (.noted .configuration ("Cannot read password file: " ++ fault.message path)
        [("password_file", .text path)])
    | .error (.undecodable fault) => .error (.plain .undecodable fault.message)

/-- The URL of the target, with the given password where it is built from its parts. -/
def targetWith (s : Settings) (password : Except Failure (Option String)) :
    Except Failure DatabaseUrl :=
  match s.url.filter (! ·.isEmpty) with
  | some url =>
    match DatabaseUrl.ofText (withDriver url) with
    | .ok u => .ok u
    | .error flaw =>
      .error (.noted .configuration ("Invalid database URL: " ++ flaw.message) [])
  | none => password.map fun p => {
      driver := "postgresql+psycopg"
      username := s.user
      password := p
      host := some s.host
      port := some s.port
      database := s.database }

/-- The target with its password. -/
def target (files : Files) (s : Settings) : Except Failure DatabaseUrl :=
  s.targetWith (s.password files)

/-- The target, a password file left unread. -/
def openTarget (s : Settings) : Except Failure DatabaseUrl := s.targetWith (.ok none)

def backend (s : Settings) : Except Failure String := s.openTarget.map (·.backend)

def isMemoryUrl (u : DatabaseUrl) : Bool :=
  u.backend = "sqlite" && (u.database.getD "" = "" || u.database = some ":memory:")

/-- Whether the database lives in memory only. -/
def isMemory (s : Settings) : Except Failure Bool := s.openTarget.map isMemoryUrl

def displayUrl (s : Settings) : Except Failure String := s.openTarget.map (·.display)

/-- The mode asked for; production asks for encryption by itself. -/
def sslMode (s : Settings) : TlsMode :=
  s.tls.getD (if s.environment = .production then .require else .prefer)

/-- The settings as a text for programmers, which leaves the URL out. -/
def summary (s : Settings) : String :=
  let part (word : Option String) : String := (word.map quoted).getD "None"
  "DatabaseSettings(host=" ++ quoted s.host ++ ", port=" ++ toString s.port
    ++ ", database=" ++ part s.database ++ ", user=" ++ part s.user
    ++ ", password_file="
    ++ ((s.passwordFile.map fun path => "PosixPath(" ++ quoted path ++ ")").getD "None")
    ++ ", pool_size=" ++ toString s.poolSize ++ ", idle_timeout=" ++ s.idleTimeout.text
    ++ ", connect_timeout=" ++ s.connectTimeout.text
    ++ ", statement_timeout=" ++ s.statementTimeout.text
    ++ ", tls=" ++ part (s.tls.map (·.word)) ++ ", environment=" ++ quoted s.environment.word
    ++ ", echo=" ++ (if s.echo then "True" else "False") ++ ")"

/-! ## The environment -/

abbrev Environment := List (String × String)

def variablePrefix : String := "FORMSCAFFOLD_"

/-- The variables, and the settings they set. -/
def variableNames : List (String × String) :=
  [("DATABASE_URL", "url"), ("DB_HOST", "host"), ("DB_PORT", "port"), ("DB_NAME", "database"),
    ("DB_USER", "user"), ("DB_PASSWORD_FILE", "password_file"), ("DB_POOL_SIZE", "pool_size"),
    ("DB_IDLE_TIMEOUT", "idle_timeout"), ("DB_CONNECT_TIMEOUT", "connect_timeout"),
    ("DB_STATEMENT_TIMEOUT", "statement_timeout"), ("DB_TLS", "tls"), ("ENV", "environment")]

/-- The value of a variable; an empty one counts as absent. -/
def lookup? (environment : Environment) (name : String) : Option String :=
  (environment.lookup (variablePrefix ++ name)).filter (! ·.isEmpty)

def environmentEntries (environment : Environment) : Entries :=
  variableNames.filterMap fun (name, key) =>
    (lookup? environment name).map fun raw => (key, .text raw)

/-- Settings from the environment, in which values that are given and not null count first. -/
def ofEnvironment (environment : Environment) (given : Entries) : Except Failure Settings :=
  let entries := environmentEntries environment ++ given.filter fun (_, v) => !v.isNull
  match read entries with
  | .error problems =>
    let texts := problems.map fun p =>
      (if p.place.isEmpty then "settings" else p.placeText) ++ ": " ++ p.cause.message
    .error (.noted .configuration ("Invalid database settings: " ++ String.intercalate "; " texts)
      [("problems", .list (texts.map .text))])
  | .ok s => s.displayUrl.map fun _ => s

def defaultUrl : String := "sqlite:///./formscaffold.db"

/-- The settings of a command: its own URL, else those of the environment, else a file at hand. -/
def resolve (url : Option String) (echo : Bool) (environment : Environment) :
    Except Failure Settings :=
  match url.filter (! ·.isEmpty) with
  | some url => ofUrl url echo
  | none =>
    if (lookup? environment "DATABASE_URL").isSome ∨ (lookup? environment "DB_NAME").isSome then
      ofEnvironment environment [("echo", .bool echo)]
    else ofUrl defaultUrl echo

end Settings

end EntityStore
