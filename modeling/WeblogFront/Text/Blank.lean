import WeblogFront.Text.Cut

/-! Blank characters are those with the White_Space property; there are twenty-five of them. -/
namespace WeblogFront.Text

def isBlank (c : Char) : Bool :=
  let n := c.toNat
  (0x09 ≤ n && n ≤ 0x0D) || n = 0x20 || n = 0x85 || n = 0xA0 || n = 0x1680
    || (0x2000 ≤ n && n ≤ 0x200A) || n = 0x2028 || n = 0x2029 || n = 0x202F || n = 0x205F
    || n = 0x3000

def trim (text : List Char) : List Char :=
  trimEnds isBlank text

def isAllBlank (text : List Char) : Bool :=
  text.all isBlank

end WeblogFront.Text
