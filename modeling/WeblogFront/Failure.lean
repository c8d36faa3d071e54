import WeblogFront.Request.Rejection
import WeblogFront.Settings.Problem
import WeblogFront.Site.Lookup

/-! Everything that can go wrong, by cause. Each cause has the status it is answered with, a public text
that gives nothing away, and the messages that the log gets, the outermost first. -/
namespace WeblogFront

inductive Failure where
  | rejected (rejection : Rejection)
  | lookup (failure : Site.LookupFailure)
  | file (message : String)
  | logging (message : String)
  | site (path message : String)
  | settings (problem : Settings.Problem)
  | notFound (what name : String)
  | unexpected (message : String)
  deriving DecidableEq

namespace Failure

def message : Failure → String
  | .rejected rejection => rejection.message
  | .lookup failure => failure.message
  | .file message => "io error: " ++ message
  | .logging message => "telemetry initialization failed: " ++ message
  | .site path message => "site file `" ++ path ++ "` is invalid: " ++ message
  | .settings problem => problem.message
  | .notFound what name => what ++ " `" ++ name ++ "` not found"
  | .unexpected message => "unexpected error: " ++ message

/-- Only a file failure wraps a failure of its own. -/
def messages : Failure → List String
  | .file message => [(Failure.file message).message, message]
  | failure => [failure.message]

/-- A page that is not there is missing, whatever the reason; a store that is down may come back. -/
def status : Failure → Nat
  | .rejected _ => 404
  | .notFound _ _ => 404
  | .lookup (.unknownWeblog _) => 404
  | .lookup (.backend _) => 503
  | _ => 500

def publicText : Failure → String
  | .rejected _ => "Page not found"
  | .notFound _ _ => "Page not found"
  | .lookup (.unknownWeblog _) => "Page not found"
  | .lookup (.backend _) => "Service temporarily unavailable"
  | .settings _ => "Service misconfigured"
  | .logging _ => "Logging subsystem could not start"
  | .file _ => "I/O failure during request"
  | .site _ _ => "Site data unavailable"
  | .unexpected _ => "Unexpected error occurred"

end Failure

end WeblogFront
