import WeblogFront.Text.Cut
import WeblogFront.Text.Percent

/-! Form text, as it stands in a query string: `+` is a space, escapes are octets, the octets are
UTF-8. Nothing is refused; what is no text reads as replacement characters. -/
namespace WeblogFront.Text

def spelled (text : List Char) : List UInt8 :=
  unescape (octets (exchange '+' ' ' text))

/-- Octets of a text are read exactly; only other octets need the lossy reading. -/
def readForm (text : List Char) : List Char :=
  match strict? (spelled text) with
  | some exact => exact
  | none => lossy (spelled text)

def decode (text : String) : String :=
  String.ofList (readForm text.toList)

/-- The text `a=1&b&c=` names a, b and c; empty pieces name nothing, and a missing value is empty. -/
def formPairs (query : String) : List (String × String) :=
  ((pieces (· == '&') query.toList).filter (fun piece => !piece.isEmpty)).map fun piece =>
    let cut := cutOnce '=' piece
    (String.ofList (readForm cut.1), String.ofList (readForm (cut.2.getD [])))

end WeblogFront.Text
