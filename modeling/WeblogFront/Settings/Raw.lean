import WeblogFront.CommandLine.Invocation
import WeblogFront.Settings.Convert
import WeblogFront.Settings.Layer

/-! Settings as they are given: every value typed, none checked, and all of them optional. Flags of the
command line go over what the layers say. -/
namespace WeblogFront.Settings

structure RawServer where
  host : Option String
  port : Option Nat
  shutdownSeconds : Option Nat
  deriving DecidableEq

structure RawLogging where
  level : Option String
  json : Option Bool
  deriving DecidableEq

structure RawTier where
  enabled : Option Bool
  size : Option Nat
  timeout : Option Nat
  deriving DecidableEq

structure RawCaches where
  planet : RawTier
  pages : RawTier
  salts : RawTier
  deriving DecidableEq

structure Raw where
  server : RawServer
  logging : RawLogging
  tagLimit : Option Nat
  caches : RawCaches
  siteFile : Option String
  deriving DecidableEq

def RawTier.absent : RawTier := ⟨none, none, none⟩

def Raw.absent : Raw where
  server := ⟨none, none, none⟩
  logging := ⟨none, none⟩
  tagLimit := none
  caches := ⟨.absent, .absent, .absent⟩
  siteFile := none

def fieldsOf (names : List (List String)) (value : Value) : Option (List (Option Value)) :=
  value.fields? .ignored names

def part (absent : α) (read : Value → Option α) : Option Value → Option α
  | none => some absent
  | some value => read value

def serverOf? (value : Value) : Option RawServer := do
  match ← fieldsOf [["host"], ["port"], ["graceful_shutdown_seconds"]] value with
  | [host, port, seconds] =>
    let host ← optional? text? host
    let port ← optional? port? port
    let seconds ← optional? count? seconds
    some ⟨host, port, seconds⟩
  | _ => none

def loggingOf? (value : Value) : Option RawLogging := do
  match ← fieldsOf [["level"], ["json"]] value with
  | [level, json] =>
    let level ← optional? text? level
    let json ← optional? flag? json
    some ⟨level, json⟩
  | _ => none

/-- The tag limit has three spellings, of which one may be used. -/
def tagLimitSpellings : List String :=
  ["max_intersection_size", "maxIntersectionSize", "maxintersectionsize"]

def tagQueriesOf? (value : Value) : Option (Option Nat) := do
  match ← fieldsOf [tagLimitSpellings] value with
  | [limit] => optional? count? limit
  | _ => none

def tagsOf? (value : Value) : Option (Option Nat) := do
  match ← fieldsOf [["queries"]] value with
  | [queries] => part none tagQueriesOf? queries
  | _ => none

def tierOf? (value : Value) : Option RawTier := do
  match ← fieldsOf [["enabled"], ["size"], ["timeout"]] value with
  | [enabled, size, timeout] =>
    let enabled ← optional? flag? enabled
    let size ← optional? count? size
    let timeout ← optional? count? timeout
    some ⟨enabled, size, timeout⟩
  | _ => none

def cachesOf? (value : Value) : Option RawCaches := do
  match ← fieldsOf [["planet"], ["weblogpage"], ["salt"]] value with
  | [planet, pages, salts] =>
    let planet ← part .absent tierOf? planet
    let pages ← part .absent tierOf? pages
    let salts ← part .absent tierOf? salts
    some ⟨planet, pages, salts⟩
  | _ => none

def siteFileOf? (value : Value) : Option (Option String) := do
  match ← fieldsOf [["file"]] value with
  | [file] => optional? text? file
  | _ => none

def Raw.ofLayer? (layer : Layer) : Option Raw := do
  match ← fieldsOf [["server"], ["logging"], ["tags"], ["cache"], ["site"]] (.table layer) with
  | [server, logging, tags, caches, site] =>
    let server ← part Raw.absent.server serverOf? server
    let logging ← part Raw.absent.logging loggingOf? logging
    let tagLimit ← part none tagsOf? tags
    let caches ← part Raw.absent.caches cachesOf? caches
    let siteFile ← part none siteFileOf? site
    some ⟨server, logging, tagLimit, caches, siteFile⟩
  | _ => none

def RawTier.disabled (tier : RawTier) : RawTier :=
  { tier with enabled := some false }

/-- The classify command has nothing to set but the tag limit. -/
def Raw.withTagLimit (raw : Raw) (limit : Option Nat) : Raw :=
  { raw with tagLimit := limit.or raw.tagLimit }

def Raw.withServe (raw : Raw) (flags : CommandLine.ServeFlags) : Raw where
  server := {
    host := flags.host.or raw.server.host
    port := flags.port.or raw.server.port
    shutdownSeconds := flags.shutdownSeconds.or raw.server.shutdownSeconds }
  logging := {
    level := flags.logLevel.or raw.logging.level
    json := flags.logJson.or raw.logging.json }
  tagLimit := flags.tagLimit.or raw.tagLimit
  caches := {
    planet := if flags.noCache then raw.caches.planet.disabled else raw.caches.planet
    pages := if flags.noCache then raw.caches.pages.disabled else raw.caches.pages
    salts := raw.caches.salts }
  siteFile := flags.siteFile.or raw.siteFile

def Raw.withTask (raw : Raw) : Option CommandLine.Task → Raw
  | none => raw
  | some (.serve flags) => raw.withServe flags
  | some (.classify flags) => raw.withTagLimit flags.tagLimit

end WeblogFront.Settings
