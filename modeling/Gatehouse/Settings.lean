import Gatehouse.Access.Response
import Gatehouse.Check
import Gatehouse.Frame.Codec
import Gatehouse.Number.Reading
import Gatehouse.Turnstile.Controller
import Gatehouse.Validation.Offline
import Gatehouse.Validation.Online

/-!
# Settings

How a gateway is set up. The settings come from an environment of named texts; a missing or
unusable text leaves the usual value, and numbers are brought within their bounds. Two things are
refused: an online gateway without an authority to ask, and an unknown integrity check.
-/

namespace Gatehouse.Settings

/-!
## Reading settings

A setting is a text or is missing. Each reader says what a text means and what stands in for a
text that means nothing. Only the name of an integrity check is refused when it is unknown.
-/

def maxPort : Number := .finite 65535

def portOr (fallback : Number) (value : Option String) : Number :=
  let number := Number.leadingInteger (value.getD "")
  if (Number.finite 0).lt number && number.le maxPort then number else fallback

/-- A count: the whole number at the front of the text, if it is not negative. -/
def count (fallback : Number) (value : Option String) : Number :=
  let number := Number.leadingInteger (value.getD "")
  if (Number.finite 0).le number then number else fallback

def atLeast (low fallback : Number) (value : Option String) : Number :=
  Number.max low (count fallback value)

def within (low high fallback : Number) (value : Option String) : Number :=
  Number.min high (atLeast low fallback value)

def truthWords : List String := ["1", "true", "yes", "on"]

def truth (fallback : Bool) (value : Option String) : Bool :=
  match value with
  | none => fallback
  | some text => truthWords.contains (Text.lowerBasic text)

def word (text : String) : String :=
  Text.lowerBasic (Text.trim text)

def choice {α : Type} (words : List (String × α)) (fallback : α) (value : Option String) : α :=
  ((value.map word).bind fun found => words.lookup found).getD fallback

/-- A text that may be left out: blanks at its ends do not count, and nothing else is no text. -/
def text? (value : Option String) : Option String :=
  (value.map Text.trim).filter fun text => !text.isEmpty

def textOr (fallback : String) (value : Option String) : String :=
  (value.filter fun text => !text.isEmpty).getD fallback

/-- The integrity check that a text names; no text names the exclusive or. -/
def check (value : Option String) : Except Fault Check :=
  match value.filter fun text => !text.isEmpty with
  | none => .ok .xor8
  | some text =>
      match Check.ofName? (word text) with
      | some check => .ok check
      | none => .error (.settings (.checkSetting text))

def dropSlashes (path : List Char) : List Char :=
  (path.reverse.dropWhile (· == '/')).reverse

/-- A path with a slash in front and none at the end. A lone slash stays; several slashes and
nothing else leave nothing. -/
def mountOf : List Char → List Char
  | [] => ['/']
  | first :: rest =>
      let rooted := if first = '/' then first :: rest else '/' :: first :: rest
      if rooted = ['/'] then rooted else dropSlashes rooted

/-- The path under which something is mounted, blanks at its ends aside. -/
def mountPath (value : Option String) : String :=
  String.ofList (mountOf (Text.trimList (value.getD "").toList))

example : mountPath (some " a/b/ ") = "/a/b" := by decide +kernel
example : mountPath (some "///") = "" := by decide +kernel
example : mountPath none = "/" := by decide +kernel
example : portOr (.finite 80) (some "80abc") = .finite 80 := by decide +kernel
example : count (.finite 7) (some "-1") = .finite 7 := by decide +kernel

end Gatehouse.Settings

namespace Gatehouse

/-! ## What is set -/

abbrev Environment := String → Option String

inductive Verbosity where
  | trace
  | debug
  | info
  | warn
  | error
  | fatal
  | silent
  deriving DecidableEq

namespace Verbosity

def name : Verbosity → String
  | .trace => "trace"
  | .debug => "debug"
  | .info => "info"
  | .warn => "warn"
  | .error => "error"
  | .fatal => "fatal"
  | .silent => "silent"

def all : List Verbosity := [.trace, .debug, .info, .warn, .error, .fatal, .silent]

end Verbosity

inductive StoreKind where
  | postgres
  | memory
  deriving DecidableEq

def StoreKind.name : StoreKind → String
  | .postgres => "postgres"
  | .memory => "memory"

namespace Settings

structure Server where
  host : String
  port : Number
  maxConnections : Number
  maxErrors : Number
  idleTimeout : Number
  deriving DecidableEq

structure Protocol where
  codec : Frame.Codec
  seconds : Access.DisplaySeconds
  deriving DecidableEq

structure Turnstiles where
  rotationTimeout : Number
  historyLimit : Number
  deriving DecidableEq

structure Authority where
  url : String
  apiKey : Option String
  timeout : Number
  retries : Number
  pause : Number
  deriving DecidableEq

structure Validation where
  mode : Access.Source
  window : Number
  logDenials : Bool
  authority : Authority
  deriving DecidableEq

structure Store where
  kind : StoreKind
  seedFile : Option String
  deriving DecidableEq

structure Database where
  host : String
  port : Number
  user : String
  password : String
  name : String
  ssl : Bool
  deriving DecidableEq

structure Web where
  enabled : Bool
  port : Number
  basePath : String
  apiKey : Option String
  historySize : Number
  deriving DecidableEq

end Settings

structure Settings where
  verbosity : Verbosity
  server : Settings.Server
  protocol : Settings.Protocol
  turnstiles : Settings.Turnstiles
  validation : Settings.Validation
  store : Settings.Store
  database : Settings.Database
  web : Settings.Web
  deriving DecidableEq

namespace Settings

def Server.ofEnvironment (named : Environment) : Server :=
  { host := textOr "0.0.0.0" (named "TURNSTILE_HOST")
    port := portOr (.finite 3000) (named "TURNSTILE_PORT")
    maxConnections := atLeast (.finite 1) (.finite 100) (named "TURNSTILE_MAX_CONNECTIONS")
    maxErrors := atLeast (.finite 1) (.finite 10) (named "TURNSTILE_MAX_CONSECUTIVE_ERRORS")
    idleTimeout := count (.finite 0) (named "TURNSTILE_IDLE_TIMEOUT_MS") }

def frameBounds : Number × Number := (.finite 64, .finite 1048576)

def maxSeconds : Number := .finite 255

def Protocol.ofEnvironment (named : Environment) : Except Fault Protocol := do
  let check ← check (named "PROTOCOL_INTEGRITY_CHECK")
  let (low, high) := frameBounds
  let standard := Access.DisplaySeconds.standard
  return {
    codec :=
      { check := check
        maxSize := within low high Frame.defaultMaxSize (named "PROTOCOL_MAX_FRAME_SIZE") }
    seconds :=
      { grant := within (.finite 0) maxSeconds standard.grant (named "GRANT_DISPLAY_SECONDS")
        deny := within (.finite 0) maxSeconds standard.deny (named "DENY_DISPLAY_SECONDS") } }

def Turnstiles.ofEnvironment (named : Environment) : Turnstiles :=
  { rotationTimeout :=
      atLeast (.finite 1) Turnstile.Controller.defaultTimeout (named "ROTATION_TIMEOUT_MS")
    historyLimit :=
      atLeast (.finite 1) Turnstile.Ledger.defaultLimit (named "TURNSTILE_HISTORY_LIMIT") }

def maxRetries : Number := .finite 10

def Authority.ofEnvironment (named : Environment) : Authority :=
  { url := (text? (named "REMOTE_AUTH_URL")).getD ""
    apiKey := text? (named "REMOTE_AUTH_API_KEY")
    timeout :=
      within Validation.Online.minTimeout Validation.Online.maxTimeout
        Validation.Online.defaultTimeout (named "REMOTE_AUTH_TIMEOUT_MS")
    retries :=
      within (.finite 0) maxRetries Validation.Online.defaultRetries (named "REMOTE_AUTH_RETRIES")
    pause := count Validation.Online.defaultPause (named "REMOTE_AUTH_RETRY_DELAY_MS") }

def modeOf (named : Environment) : Access.Source :=
  choice [("online", .online), ("offline", .offline)] .offline (named "VALIDATION_MODE")

def Validation.ofEnvironment (named : Environment) : Validation :=
  { mode := modeOf named
    window := count Gatehouse.Validation.Offline.defaultWindow (named "ANTI_PASSBACK_WINDOW_MS")
    logDenials := truth true (named "LOG_DENIALS")
    authority := .ofEnvironment named }

def Store.ofEnvironment (named : Environment) : Store :=
  { kind :=
      choice [("postgres", .postgres), ("pg", .postgres), ("memory", .memory)] .postgres
        (named "ACCESS_STORE")
    seedFile := text? (named "ACCESS_SEED_FILE") }

def Database.ofEnvironment (named : Environment) : Database :=
  { host := textOr "localhost" (named "DB_HOST")
    port := portOr (.finite 5432) (named "DB_PORT")
    user := textOr "turnstile" (named "DB_USER")
    password := textOr "turnstile" (named "DB_PASSWORD")
    name := textOr "turnstile_access" (named "DB_NAME")
    ssl := truth false (named "DB_SSL") }

def Web.ofEnvironment (named : Environment) : Web :=
  { enabled := truth false (named "WEB_ENABLED")
    port := portOr (.finite 3001) (named "HTTP_PORT")
    basePath := mountPath (named "BASE_PATH")
    apiKey := text? (named "WEB_API_KEY")
    historySize := atLeast (.finite 1) (.finite 50) (named "WEB_HISTORY_SIZE") }

def verbosityOf (named : Environment) : Verbosity :=
  choice (Verbosity.all.map fun verbosity => (verbosity.name, verbosity)) .info
    (named "LOG_LEVEL")

/-- The settings in an environment. A missing authority is noticed before an unknown check. -/
def ofEnvironment (named : Environment) : Except Fault Settings := do
  if modeOf named = .online && (text? (named "REMOTE_AUTH_URL")).isNone then
    throw (.settings .noAuthorityUrl)
  let protocol ← Protocol.ofEnvironment named
  return {
    verbosity := verbosityOf named
    server := .ofEnvironment named
    protocol := protocol
    turnstiles := .ofEnvironment named
    validation := .ofEnvironment named
    store := .ofEnvironment named
    database := .ofEnvironment named
    web := .ofEnvironment named }

end Settings

end Gatehouse
