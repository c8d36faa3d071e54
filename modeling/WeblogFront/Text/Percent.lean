import WeblogFront.Text.Numeral
import WeblogFront.Text.Utf8

/-! Percent escapes: `%` and two hexadecimal digits stand for one octet. Reading takes digits of
either case and leaves a `%` without two digits as it is; writing uses upper case and escapes every
octet that is not an unreserved ASCII character. -/
namespace WeblogFront.Text

def hexValue? (octet : UInt8) : Option Nat :=
  hexDigit? (Char.ofNat octet.toNat)

def unescape : List UInt8 → List UInt8
  | [] => []
  | percent :: high :: low :: rest =>
    if percent = 0x25 then
      match hexValue? high, hexValue? low with
      | some h, some l => UInt8.ofNat (h * 16 + l) :: unescape rest
      | _, _ => percent :: unescape (high :: low :: rest)
    else percent :: unescape (high :: low :: rest)
  | octet :: rest => octet :: unescape rest

def isUnreserved (c : Char) : Bool :=
  c.isAlphanum || c = '-' || c = '.' || c = '_' || c = '~'

def hexDigit (value : Nat) : Char :=
  if value < 10 then Char.ofNat (0x30 + value) else Char.ofNat (0x37 + value)

def escapeOctet (octet : UInt8) : List Char :=
  ['%', hexDigit (octet.toNat / 16), hexDigit (octet.toNat % 16)]

def segment (text : List Char) : List Char :=
  text.flatMap fun c => if isUnreserved c then [c] else (charOctets c).flatMap escapeOctet

end WeblogFront.Text
