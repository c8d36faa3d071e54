import WeblogFront.Signal

/-! Answers kept with the request that asked. A question is put at most once; what came of it, a record,
nothing or a failure, stays until the cell is replaced. A failure is reported when it happens and
reads as nothing. -/
namespace WeblogFront

inductive Memo (α : Type) where
  | unresolved
  | found (value : α)
  | missing
  | failed (failure : Site.LookupFailure)
  deriving DecidableEq

namespace Memo

def value? : Memo α → Option α
  | .found value => some value
  | _ => none

def isResolved : Memo α → Bool
  | .unresolved => false
  | _ => true

def failure? : Memo α → Option Site.LookupFailure
  | .failed failure => some failure
  | _ => none

def ofAnswer : Site.Answer α → Memo α
  | .ok (some value) => .found value
  | .ok none => .missing
  | .error failure => .failed failure

def report (what key : String) : Site.Answer α → List Signal
  | .error failure => [.lookupFailed what key failure]
  | .ok _ => []

/-- The signal `asked` comes when the question is put, which is when the cell is empty. -/
def resolve (what key : String) (asked : List Signal) (answer : Site.Answer α) :
    Memo α → Step (Memo α) (Option α)
  | .unresolved => ⟨ofAnswer answer, (ofAnswer answer).value?, asked ++ report what key answer⟩
  | resolved => ⟨resolved, resolved.value?, []⟩

def shown (write : α → String) : Memo α → String
  | .unresolved => "Unresolved"
  | .found value => "Found(" ++ write value ++ ")"
  | .missing => "Missing"
  | .failed (.backend message) =>
    "Failed(Backend \x7b message: " ++ Text.quote message ++ " \x7d)"
  | .failed (.unknownWeblog handle) =>
    "Failed(UnknownWeblog \x7b handle: " ++ Text.quote handle ++ " \x7d)"

end Memo

end WeblogFront
