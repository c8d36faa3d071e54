import WeblogFront.Settings.Checked
import WeblogFront.Settings.Variables
import WeblogFront.Surroundings
import WeblogFront.Toml.Reader

/-! Loading the settings of a run: the file of defaults, the local file, the file that the command line
names, the environment, and on top of them the flags. The first two files may be missing, the third
may not; a file that is there has to be readable. -/
namespace WeblogFront.Settings

def defaultFile : String := "config/default"

def localFile : String := "roller"

/-- The part of a file name after its last point, when something stands before the point. -/
def extension (path : String) : List Char :=
  let name := (path.toList.reverse.takeWhile (· != '/')).reverse
  let last := (name.reverse.takeWhile (· != '.')).reverse
  if last.length + 1 < name.length then last else []

/-- A file is meant by its whole name, which must say that it is TOML, or without that ending. -/
def locate? (files : Files) (path : String) : Option String :=
  if files.holds path then if extension path = "toml".toList then some path else none
  else
    let completed := path ++ ".toml"
    if files.holds completed then some completed else none

def afterMark : List UInt8 → List UInt8
  | 0xEF :: 0xBB :: 0xBF :: rest => rest
  | octets => octets

/-- What is no text in a file is replaced before it is read. -/
def fileLayer? (files : Files) (path : String) : Option Layer := do
  let found ← (files path).toOption
  let members ← Toml.document? (String.ofList (Text.lossy (afterMark found)))
  if areStorableMembers members then some members else none

def optionalLayer (files : Files) (path : String) : Except Problem Layer :=
  match locate? files path with
  | none => .ok []
  | some found =>
    match fileLayer? files found with
    | some layer => .ok layer
    | none => .error .unbuildable

def requiredLayer (files : Files) (path : String) : Except Problem Layer :=
  match (locate? files path).bind (fileLayer? files) with
  | some layer => .ok layer
  | none => .error .unbuildable

def candidates (invocation : CommandLine.Invocation) : List String :=
  (defaultFile :: localFile :: invocation.settingsFile.toList).flatMap fun path => [path, path ++ ".toml"]

def layers (surroundings : Surroundings) (invocation : CommandLine.Invocation) :
    Except Problem (List Layer) := do
  let defaults ← optionalLayer surroundings.files defaultFile
  let nearby ← optionalLayer surroundings.files localFile
  let named ← match invocation.settingsFile with
    | some path => requiredLayer surroundings.files path
    | none => .ok []
  .ok [defaults, nearby, named, variableLayer surroundings.environment]

def load (surroundings : Surroundings) (invocation : CommandLine.Invocation) :
    Except Problem Checked := do
  let layers ← layers surroundings invocation
  match Raw.ofLayer? (merged layers) with
  | none => .error .unbuildable
  | some raw => check (raw.withTask invocation.task)

end WeblogFront.Settings
