import WeblogFront.Text.Blank
import WeblogFront.Text.Case

/-! Header fields. Names are compared without their case; a value counts as text only when each of its
characters is visible ASCII, a space or a tab. -/
namespace WeblogFront.Http

abbrev Headers := List (String × String)

def lowerName (name : String) : List Char :=
  Text.lower name.toList

/-- The first field with the name answers, whether or not its value is text. -/
def headerValue? (headers : Headers) (name : String) : Option String :=
  (headers.find? fun header => lowerName header.1 == lowerName name).map (·.2)

def isPlain (c : Char) : Bool :=
  c = '\t' || (0x20 ≤ c.toNat && c.toNat ≤ 0x7E)

def plainText? (value : String) : Option String :=
  if value.toList.all isPlain then some (String.ofList (Text.trim value.toList)) else none

def headerText? (headers : Headers) (name : String) : Option String :=
  ((headerValue? headers name).bind plainText?).filter fun text => !text.isEmpty

def isSendable (value : String) : Bool :=
  value.toList.all fun c => c = '\t' || (0x20 ≤ c.toNat && c.toNat ≠ 0x7F)

def remoteUserHeader : String := "x-remote-user"

def requestIdHeader : String := "x-request-id"

def cacheStatusHeader : String := "x-roller-cache"

/-- The user that a trusted proxy vouches for. -/
def remoteUser? (headers : Headers) : Option String :=
  headerText? headers remoteUserHeader

/-- An identifier of up to 128 characters is taken over from whoever sent the request. -/
def inboundRequestId? (headers : Headers) : Option String :=
  (headerText? headers requestIdHeader).filter fun text => text.length ≤ 128

end WeblogFront.Http
