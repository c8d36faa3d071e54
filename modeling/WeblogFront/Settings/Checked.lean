import WeblogFront.Cache.Settings
import WeblogFront.Request.Classifier
import WeblogFront.Settings.Address
import WeblogFront.Settings.LogLevel
import WeblogFront.Settings.Problem
import WeblogFront.Settings.Raw

/-! Settings that a run can use. The parts are checked in a fixed order and the first fault is the one
that is named; inside a cache tier the timeout comes before the size. -/
namespace WeblogFront.Settings

inductive LogFormat where
  | json
  | compact
  deriving DecidableEq

def LogFormat.name : LogFormat → String
  | .json => "json"
  | .compact => "compact"

structure Checked where
  address : Address
  shutdownSeconds : Nat
  logLevel : LogLevel
  logFormat : LogFormat
  tagLimit : Nat
  planet : Cache.Settings
  pages : Cache.Settings
  salts : Cache.Settings
  siteFile : Option String
  deriving DecidableEq

def defaultHost : String := "127.0.0.1"

def defaultPort : Nat := 8080

def defaultShutdownSeconds : Nat := 30

def positive (key : String) (value : Nat) : Except Problem Nat :=
  if value = 0 then .error (.invalid key "must be greater than zero") else .ok value

def checkPort (port : Nat) : Except Problem Nat :=
  if port = 0 then .error (.invalid "server.port" "port must be greater than zero") else .ok port

def checkAddress (host : String) (port : Nat) : Except Problem Address :=
  match Address.parse? host port with
  | some address => .ok address
  | none =>
    let written := host ++ ":" ++ String.ofList (Text.decimal port)
    .error (.invalid "server.addr" ("invalid address `" ++ written ++ "`: invalid socket address syntax"))

def levelReason : String :=
  "failed to parse: error parsing level filter: expected one of \"off\", \"error\", \"warn\", "
    ++ "\"info\", \"debug\", \"trace\", or a number 0-5"

def checkLevel : Option String → Except Problem LogLevel
  | none => .ok .info
  | some text =>
    match LogLevel.parse? text with
    | some level => .ok level
    | none => .error (.invalid "logging.level" levelReason)

def checkTier (id : String) (defaults : Cache.Settings) (raw : RawTier) :
    Except Problem Cache.Settings := do
  let timeout ← positive (id ++ ".timeout") (raw.timeout.getD defaults.timeout)
  let size ← positive (id ++ ".size") (raw.size.getD defaults.size)
  .ok ⟨raw.enabled.getD defaults.enabled, size, timeout⟩

/-- An empty path is no site file. -/
def siteFile (raw : Raw) : Option String :=
  raw.siteFile.filter fun path => !path.isEmpty

def check (raw : Raw) : Except Problem Checked := do
  let port ← checkPort (raw.server.port.getD defaultPort)
  let address ← checkAddress (raw.server.host.getD defaultHost) port
  let shutdownSeconds ← positive "server.graceful_shutdown_seconds"
    (raw.server.shutdownSeconds.getD defaultShutdownSeconds)
  let level ← checkLevel raw.logging.level
  let tagLimit ← positive "tags.queries.max_intersection_size"
    (raw.tagLimit.getD Request.defaultTagLimit)
  let planet ← checkTier "cache.planet" .planet raw.caches.planet
  let pages ← checkTier "cache.weblogpage" .pages raw.caches.pages
  let salts ← checkTier "cache.salt" .salts raw.caches.salts
  .ok {
    address := address
    shutdownSeconds := shutdownSeconds
    logLevel := level
    logFormat := if raw.logging.json.getD false then .json else .compact
    tagLimit := tagLimit
    planet := planet
    pages := pages
    salts := salts
    siteFile := siteFile raw }

end WeblogFront.Settings
