import WeblogFront.Text.Cut
import WeblogFront.Text.Numeral

/-! Socket addresses. A host is four decimal octets, or in brackets eight groups of hexadecimal digits,
where `::` stands for the groups left out and the last two groups may be written as four octets, with
a zone after `%` if need be. Names are no addresses. -/
namespace WeblogFront.Settings

inductive Address where
  | v4 (octets : List Nat) (port : Nat)
  | v6 (groups : List Nat) (zone port : Nat)
  deriving DecidableEq

namespace Address

/-- Up to three digits below 256, without a zero in front. -/
def octet? (digits : List Char) : Option Nat :=
  match digits with
  | '0' :: _ :: _ => none
  | _ => if digits.length ≤ 3 then (Text.natural? digits).filter (· < 256) else none

def octets? (text : List Char) : Option (List Nat) :=
  match (Text.pieces (· == '.') text).mapM octet? with
  | some octets => if octets.length = 4 then some octets else none
  | none => none

def group? (digits : List Char) : Option Nat :=
  if digits.isEmpty || 4 < digits.length then none else Text.hexadecimal? digits

def pairs : List Nat → List Nat
  | a :: b :: rest => (a * 256 + b) :: pairs rest
  | _ => []

/-- Groups between colons; octets may stand for the last two, where that is allowed. -/
def groups? (octetsLast : Bool) : List (List Char) → Option (List Nat)
  | [] => some []
  | [last] =>
    match group? last with
    | some group => some [group]
    | none => if octetsLast then (octets? last).map pairs else none
  | first :: next :: rest => do
    let group ← group? first
    let others ← groups? octetsLast (next :: rest)
    some (group :: others)

def colonGroups? (octetsLast : Bool) (text : List Char) : Option (List Nat) :=
  if text.isEmpty then some [] else groups? octetsLast (Text.pieces (· == ':') text)

def splitGap : List Char → List Char × Option (List Char)
  | ':' :: ':' :: rest => ([], some rest)
  | c :: rest =>
    let cut := splitGap rest
    (c :: cut.1, cut.2)
  | [] => ([], none)

/-- Octets stand only at the very end, and a gap leaves out one group at least. -/
def v6Groups? (text : List Char) : Option (List Nat) :=
  match splitGap text with
  | (whole, none) => (colonGroups? true whole).filter fun groups => groups.length = 8
  | (front, some back) => do
    let head ← colonGroups? false front
    let tail ← colonGroups? true back
    if head.length + tail.length ≤ 7 then
      some (head ++ List.replicate (8 - head.length - tail.length) 0 ++ tail)
    else none

def zone? (text : List Char) : Option Nat :=
  (Text.natural? text).filter (· ≤ Text.maxWord32)

def parse? (host : String) (port : Nat) : Option Address :=
  match host.toList with
  | '[' :: rest =>
    match rest.reverse with
    | ']' :: inside =>
      match Text.cutOnce '%' inside.reverse with
      | (text, none) => (v6Groups? text).map fun groups => .v6 groups 0 port
      | (text, some zone) => do
        let groups ← v6Groups? text
        let zone ← zone? zone
        some (.v6 groups zone port)
    | _ => none
  | text => (octets? text).map fun octets => .v4 octets port

/-- Every machine has its loopback addresses, and it can be reached at all its addresses together. -/
def isEverywhere : Address → Bool
  | .v4 octets _ => octets.head? = some 127 || octets = [0, 0, 0, 0]
  | .v6 groups _ _ =>
    match groups with
    | [0, 0, 0, 0, 0, 0xFFFF, high, low] => high / 256 = 127 || (high = 0 && low = 0)
    | _ => groups = [0, 0, 0, 0, 0, 0, 0, 0] || groups = [0, 0, 0, 0, 0, 0, 0, 1]

def joinWith (separator : Char) : List (List Char) → List Char
  | [] => []
  | [text] => text
  | text :: rest => text ++ separator :: joinWith separator rest

def octetsText (octets : List Nat) : List Char :=
  joinWith '.' (octets.map Text.decimal)

def groupsText (groups : List Nat) : List Char :=
  joinWith ':' (groups.map Text.lowerHex)

def zeroRun (groups : List Nat) : Nat :=
  (groups.takeWhile (· = 0)).length

/-- Where the longest run of zero groups starts, the first of them if there are several. -/
def longestGap (groups : List Nat) : Nat × Nat :=
  (List.range groups.length).foldl (fun best start =>
    let length := zeroRun (groups.drop start)
    if best.2 < length then (start, length) else best) (0, 0)

def v6Text (groups : List Nat) : List Char :=
  match groups with
  | [0, 0, 0, 0, 0, 0xFFFF, high, low] =>
    "::ffff:".toList ++ octetsText [high / 256, high % 256, low / 256, low % 256]
  | _ =>
    let gap := longestGap groups
    if gap.2 ≤ 1 then groupsText groups
    else groupsText (groups.take gap.1) ++ [':', ':'] ++ groupsText (groups.drop (gap.1 + gap.2))

def text : Address → String
  | .v4 octets port => String.ofList (octetsText octets ++ ':' :: Text.decimal port)
  | .v6 groups zone port =>
    let zoneText := if zone = 0 then [] else '%' :: Text.decimal zone
    String.ofList ('[' :: v6Text groups ++ zoneText ++ ']' :: ':' :: Text.decimal port)

end Address

end WeblogFront.Settings
