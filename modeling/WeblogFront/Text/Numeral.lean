/-! Decimal and hexadecimal numerals. Reading knows ASCII digits only, and a bound is part of the
reading: a numeral past it is no numeral at all. -/
namespace WeblogFront.Text

def isDigit (c : Char) : Bool :=
  '0' ≤ c && c ≤ '9'

def digitValue (c : Char) : Nat :=
  c.toNat - '0'.toNat

def digitsValue (digits : List Char) : Nat :=
  digits.foldl (fun total c => total * 10 + digitValue c) 0

def natural? (text : List Char) : Option Nat :=
  if !text.isEmpty && text.all isDigit then some (digitsValue text) else none

def dropPlus : List Char → List Char
  | '+' :: rest => rest
  | text => text

/-- A count may carry one plus sign and has to stay at or below the bound. -/
def bounded? (bound : Nat) (text : List Char) : Option Nat :=
  (natural? (dropPlus text)).filter (· ≤ bound)

def word? : List Char → Option Int
  | '-' :: digits => ((natural? digits).filter (· ≤ Nat.pow 2 63)).map fun n => -(n : Int)
  | text => ((natural? (dropPlus text)).filter (· < Nat.pow 2 63)).map fun n => (n : Int)

def hexDigit? (c : Char) : Option Nat :=
  if isDigit c then some (digitValue c)
  else if 'a' ≤ c && c ≤ 'f' then some (c.toNat - 'a'.toNat + 10)
  else if 'A' ≤ c && c ≤ 'F' then some (c.toNat - 'A'.toNat + 10)
  else none

/-- Hexadecimal digits of either case; no digits at all are zero. -/
def hexadecimal? (digits : List Char) : Option Nat :=
  (digits.mapM hexDigit?).map fun values => values.foldl (fun total digit => total * 16 + digit) 0

def decimal (n : Nat) : List Char :=
  Nat.toDigits 10 n

/-- Zeros in front up to the width; a longer numeral keeps all its digits. -/
def padded (width n : Nat) : List Char :=
  List.replicate (width - (decimal n).length) '0' ++ decimal n

def signed : Int → List Char
  | .ofNat n => decimal n
  | .negSucc n => '-' :: decimal (n + 1)

def lowerHex (n : Nat) : List Char :=
  Nat.toDigits 16 n

def maxWord32 : Nat := Nat.pow 2 32 - 1

def maxWord64 : Nat := Nat.pow 2 64 - 1

end WeblogFront.Text
