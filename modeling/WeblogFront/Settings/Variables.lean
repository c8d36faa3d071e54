import WeblogFront.Settings.Layer
import WeblogFront.Text.Case

/-! Settings from environment variables. `ROLLER__SERVER__PORT` sets `server.port`: the name counts in
lower case, the first part marks it as ours, and doubled underscores part the keys. The value is text,
which the reader of the setting converts. -/
namespace WeblogFront.Settings

def variableMark : List Char := "roller__".toList

/-- Doubled underscores from the left become points. -/
def pointed : List Char → List Char
  | '_' :: '_' :: rest => '.' :: pointed rest
  | c :: rest => c :: pointed rest
  | [] => []

def variableKey? (name : String) : Option String :=
  (Text.after? variableMark (Text.lower name.toList)).map fun rest =>
    String.ofList (pointed rest)

def variableLayer (environment : List (String × String)) : Layer :=
  (environment.mergeSort fun left right => left.1 ≤ right.1).filterMap fun pair =>
    (variableKey? pair.1).map fun key => (key, .text pair.2)

end WeblogFront.Settings
