import WeblogFront.CommandLine.Grammar

/-! What the program may be asked on its command line: to serve, which is also what it does when nothing
is said, or to classify one address. -/
namespace WeblogFront.CommandLine

structure ServeFlags where
  host : Option String
  port : Option Nat
  shutdownSeconds : Option Nat
  logLevel : Option String
  logJson : Option Bool
  tagLimit : Option Nat
  siteFile : Option String
  noCache : Bool
  deriving DecidableEq

def ServeFlags.absent : ServeFlags :=
  ⟨none, none, none, none, none, none, none, false⟩

structure ClassifyFlags where
  tagLimit : Option Nat
  user : Option String
  url : String
  deriving DecidableEq

inductive Task where
  | serve (flags : ServeFlags)
  | classify (flags : ClassifyFlags)
  deriving DecidableEq

structure Invocation where
  settingsFile : Option String
  task : Option Task
  deriving DecidableEq

def serveCommand : Command where
  options := [
    ("server-host", .text), ("server-port", .port), ("server-graceful-shutdown-seconds", .count),
    ("log-level", .text), ("log-json", .truth), ("max-tags", .count), ("site-file", .path)]
  switches := ["no-cache"]
  versioned := false
  operand := false
  subcommands := []

def classifyCommand : Command where
  options := [("max-tags", .count), ("user", .text)]
  switches := []
  versioned := false
  operand := true
  subcommands := []

def rootCommand : Command where
  options := [("config-file", .path)]
  switches := []
  versioned := true
  operand := false
  subcommands := ["serve", "classify", "help"]

def readServe (words : List String) : Except ArgumentError ServeFlags :=
  (finish serveCommand words).map fun scan =>
    { host := scan.text? "server-host"
      port := scan.number? "server-port"
      shutdownSeconds := scan.number? "server-graceful-shutdown-seconds"
      logLevel := scan.text? "log-level"
      logJson := scan.truth? "log-json"
      tagLimit := scan.number? "max-tags"
      siteFile := scan.text? "site-file"
      noCache := scan.isGiven "no-cache" }

def readClassify (words : List String) : Except ArgumentError ClassifyFlags :=
  (finish classifyCommand words).map fun scan =>
    { tagLimit := scan.number? "max-tags"
      user := scan.text? "user"
      url := scan.operand.getD "" }

def readTask (name : String) (words : List String) : Except ArgumentError Task :=
  if name = "serve" then (readServe words).map .serve
  else if name = "classify" then (readClassify words).map .classify
  else .error (helpError rootCommand words)

def versionText : String := "weblog front 0.1.0"

def usageText : String :=
  "\n".intercalate [
    "usage: [--config-file PATH] [serve [OPTIONS] | classify [OPTIONS] URL | help [COMMAND]]",
    "  serve     --server-host HOST, --server-port PORT, --server-graceful-shutdown-seconds SECONDS,",
    "            --log-level LEVEL, --log-json BOOL, --max-tags COUNT, --site-file PATH, --no-cache",
    "  classify  --max-tags COUNT, --user NAME"]

def settingsVariable : String := "ROLLER_CONFIG_FILE"

/-- A fault in the words of a subcommand comes before an unsettled option in front of it. -/
def Invocation.parse (words : List String) (fallback : Option String) :
    Except ArgumentError Invocation := do
  let (scan, below) ← scanWords rootCommand .start words
  let task ← match below with
    | some (name, rest) => (readTask name rest).map some
    | none => .ok none
  let settled ← scan.settle
  match settled.text? "config-file", fallback with
  | some path, _ => .ok ⟨some path, task⟩
  | none, some path => if path.isEmpty then .error .invalidValue else .ok ⟨some path, task⟩
  | none, none => .ok ⟨none, task⟩

end WeblogFront.CommandLine
