import WeblogFront.Text.Case
import WeblogFront.Value

/-! Reading one setting. A file may give a number, a truth value or a text where another of the three is
wanted; what can be meant is converted, the rest is refused. -/
namespace WeblogFront.Settings

def trueTexts : List String := ["true", "on", "yes"]

def falseTexts : List String := ["false", "off", "no"]

/-- A 64-bit count. Decimals are rounded, and truth counts as one. -/
def count? : Value → Option Nat
  | .integer (.ofNat n) => some n
  | .integer _ => none
  | .real value => some (value.toNatural Text.maxWord64)
  | .flag value => some (if value then 1 else 0)
  | .text value =>
    if Text.isOneOf trueTexts value then some 1
    else if Text.isOneOf falseTexts value then some 0
    else Text.bounded? Text.maxWord64 value.toList
  | _ => none

def port? (value : Value) : Option Nat :=
  (count? value).filter (· < Nat.pow 2 16)

/-- Every number but zero is true; of the texts only one, zero and the usual words are read. -/
def flag? : Value → Option Bool
  | .flag value => some value
  | .integer value => some (value != 0)
  | .real value => some (!value.isZero)
  | .text value =>
    if Text.isOneOf ("1" :: trueTexts) value then some true
    else if Text.isOneOf ("0" :: falseTexts) value then some false
    else none
  | _ => none

def text? : Value → Option String
  | .text value => some value
  | .moment written => some written
  | .flag value => some (if value then "true" else "false")
  | .integer value => some (String.ofList (Text.signed value))
  | .real value => some (String.ofList value.text)
  | _ => none

def optional? (read : Value → Option α) : Option Value → Option (Option α)
  | none => some none
  | some .null => some none
  | some value => (read value).map some

-- Files may hold integers of 64 bits, with a sign.
mutual

def isStorable : Value → Bool
  | .integer value => -(Nat.pow 2 63 : Int) ≤ value && value < Nat.pow 2 63
  | .list items => areStorable items
  | .table members => areStorableMembers members
  | _ => true

def areStorable : List Value → Bool
  | [] => true
  | item :: rest => isStorable item && areStorable rest

def areStorableMembers : List (String × Value) → Bool
  | [] => true
  | (_, value) :: rest => isStorable value && areStorableMembers rest

end

end WeblogFront.Settings
