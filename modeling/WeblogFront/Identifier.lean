import WeblogFront.Text.Numeral

/-! Random identifiers of 128 bits. Six bits are fixed to mark the identifier as random; the rest is
whatever was drawn. -/
namespace WeblogFront.Identifier

def fixBits (position : Nat) (octet : UInt8) : UInt8 :=
  if position = 6 then (octet &&& 0x0F) ||| 0x40
  else if position = 8 then (octet &&& 0x3F) ||| 0x80
  else octet

def octetHex (octet : UInt8) : List Char :=
  [Nat.digitChar (octet.toNat / 16), Nat.digitChar (octet.toNat % 16)]

/-- Sixteen octets are used; missing ones read as zero. -/
def octetAt (drawn : List UInt8) (position : Nat) : List Char :=
  octetHex (fixBits position (drawn.getD position 0))

def digits (drawn : List UInt8) : List Char :=
  (List.range 16).flatMap (octetAt drawn)

def simple (drawn : List UInt8) : String :=
  String.ofList (digits drawn)

def grouped (drawn : List UInt8) : String :=
  let text := digits drawn
  String.ofList (text.take 8 ++ '-' :: (text.drop 8).take 4 ++ '-' :: (text.drop 12).take 4 ++ '-' ::
    (text.drop 16).take 4 ++ '-' :: text.drop 20)

end WeblogFront.Identifier
