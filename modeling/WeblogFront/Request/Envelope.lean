import WeblogFront.Request.Raw
import WeblogFront.Request.Rejection
import WeblogFront.Request.Selector
import WeblogFront.Text.Blank

/-! The outer form of a page address: a weblog, at most one locale, and the path that is left for the
view. The slashes around the address are its wrapping and belong to none of them. -/
namespace WeblogFront.Request

structure Envelope where
  handle : String
  locale : Option String
  rest : Option String
  deriving DecidableEq

/-- At most one slash is taken from the front and then at most one from the back. -/
def unwrap (path : List Char) : List Char :=
  Text.dropTrail '/' (Text.dropLead '/' path)

def splitLocale (below : List Char) : Option String × Option String :=
  let cut := Text.cutOnce '/' below
  let first := String.ofList cut.1
  if isLocale first then (some first, cut.2.map String.ofList)
  else (none, some (String.ofList below))

/-- A path of one octet between its blanks names no weblog, and neither does an empty first segment. -/
def Envelope.split? (path : Option String) : Option Envelope :=
  match path with
  | none => none
  | some path =>
    if Text.octetLength (Text.trim path.toList) ≤ 1 then none
    else
      match Text.cutOnce '/' (unwrap path.toList) with
      | ([], _) => none
      | (handle, none) => some ⟨String.ofList handle, none, none⟩
      | (handle, some below) =>
        let parts := splitLocale below
        some ⟨String.ofList handle, parts.1, parts.2⟩

def Envelope.read (raw : RawRequest) : Except Rejection Envelope :=
  match Envelope.split? raw.path with
  | some envelope => .ok envelope
  | none => .error (.missingWeblog raw.url)

end WeblogFront.Request
