import WeblogFront.Text.Utf8

/-! Files, as the program sees them: a path leads to octets, or there is a reason why it does not. -/
namespace WeblogFront

inductive FileTrouble where
  | missing
  | directory
  | notText
  | other (message : String)
  deriving DecidableEq

def FileTrouble.message : FileTrouble → String
  | .missing => "No such file or directory (os error 2)"
  | .directory => "Is a directory (os error 21)"
  | .notText => "stream did not contain valid UTF-8"
  | .other message => message

abbrev Files := String → Except FileTrouble (List UInt8)

namespace Files

def holds (files : Files) (path : String) : Bool :=
  match files path with
  | .ok _ => true
  | .error _ => false

/-- A text file must be one: no octet is replaced. -/
def readText (files : Files) (path : String) : Except FileTrouble String :=
  match files path with
  | .error trouble => .error trouble
  | .ok octets =>
    match Text.strict? octets with
    | some text => .ok (String.ofList text)
    | none => .error .notText

end Files

end WeblogFront
