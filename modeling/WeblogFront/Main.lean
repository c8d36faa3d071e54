import WeblogFront.Program

/-! The command line. What a run does is decided by `Program.run`, a function of its arguments, its files
and its environment; those are fetched here, and the ending is printed and turned into an exit code.
Serving stops at the point where a server would listen. -/
namespace WeblogFront.Terminal

def trouble : IO.Error → FileTrouble
  | .noFileOrDirectory .. => .missing
  | .inappropriateType .. => .directory
  | error => .other (toString error)

def readOctets (path : String) : IO (Except FileTrouble (List UInt8)) := do
  match ← (IO.FS.readBinFile path).toBaseIO with
  | .ok octets => pure (.ok octets.toList)
  | .error error => pure (.error (trouble error))

def gather (paths : List String) : IO Files := do
  let found ← paths.mapM fun path => do
    let content ← readOctets path
    pure (path, content)
  pure fun path => (found.lookup path).getD (.error .missing)

/-- The system hands over the environment as text with a null character after each variable. -/
def environment : IO (List (String × String)) := do
  let octets ← IO.FS.readBinFile "/proc/self/environ"
  let parts := Text.pieces (fun c => c.toNat = 0) (Text.lossy octets.toList)
  pure (parts.filterMap fun part =>
    match Text.cutOnce '=' part with
    | (name, some value) => some (String.ofList name, String.ofList value)
    | (_, none) => none)

def report : Program.Ending → IO Unit
  | .printed text => IO.println text
  | .ready server => IO.println ("ready to serve at " ++ server.settings.address.text)
  | .failed failure true => IO.eprintln ("application error: " ++ failure.message)
  | .failed _ false => pure ()
  | .misused .displayVersion => IO.println CommandLine.versionText
  | .misused .displayHelp => IO.println CommandLine.usageText
  | .misused _ => IO.eprintln CommandLine.usageText

end WeblogFront.Terminal

open WeblogFront in
def main (words : List String) : IO UInt32 := do
  let environment ← Terminal.environment
  let settingsPaths := Program.settingsPaths environment words
  let settingsFiles ← Terminal.gather settingsPaths
  let sitePaths := Program.sitePaths ⟨settingsFiles, environment, Settings.Address.isEverywhere⟩ words
  let files ← Terminal.gather (settingsPaths ++ sitePaths)
  let ending := Program.run ⟨files, environment, Settings.Address.isEverywhere⟩ words
  Terminal.report ending
  pure (UInt32.ofNat (Program.exitCode ending))
