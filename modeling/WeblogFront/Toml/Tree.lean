import WeblogFront.Value

/-! The tables of a TOML document while they are being filled. A table is known by how it came about: a
header or braces define it for good, a longer header implies it and a later header may still define
it, and a dotted key makes one that only further dotted keys may extend. -/
namespace WeblogFront.Toml

inductive Origin where
  | defined
  | implied
  | dotted
  deriving DecidableEq

inductive Node where
  | leaf (value : Value)
  | table (origin : Origin) (members : List (String × Node))
  | tables (items : List (List (String × Node)))

abbrev Members := List (String × Node)

namespace Members

def find? (members : Members) (key : String) : Option Node :=
  members.lookup key

def replace (members : Members) (key : String) (node : Node) : Members :=
  members.map fun member => if member.1 = key then (key, node) else member

def add (members : Members) (key : String) (node : Node) : Members :=
  members ++ [(key, node)]

/-- Follow a path from a table and act on the table at its end, making the tables that are missing.
A list of tables stands for its last table. Dotted keys may not enter a defined table. -/
def descend (dotted : Bool) (act : Origin → Members → Option Members) :
    List String → Origin → Members → Option Members
  | [], origin, members => act origin members
  | key :: rest, _, members =>
    let made := if dotted then Origin.dotted else Origin.implied
    match members.find? key with
    | none =>
      (descend dotted act rest made []).map fun inner => members.add key (.table made inner)
    | some (.leaf _) => none
    | some (.tables items) =>
      match items.reverse with
      | [] => none
      | last :: earlier =>
        (descend dotted act rest .defined last).map fun inner =>
          members.replace key (.tables (earlier.reverse ++ [inner]))
    | some (.table origin inner) =>
      if dotted && origin = .defined then none
      else
        (descend dotted act rest origin inner).map fun inner =>
          members.replace key (.table origin inner)

/-- A value under a dotted key: the last part is new in its table, and the table in which it ends up
is a dotted one exactly when the key has more than one part. -/
def assign (path : List String) (key : String) (value : Node) (origin : Origin) (members : Members) :
    Option Members :=
  descend true (fun ending table =>
    if (ending == .dotted) == path.isEmpty then none
    else
      match table.find? key with
      | some _ => none
      | none => some (table.add key value)) path origin members

def assignUnder (header path : List String) (key : String) (value : Node) (members : Members) :
    Option Members :=
  descend false (assign path key value) header .defined members

def openTable (path : List String) (key : String) (members : Members) : Option Members :=
  descend false (fun _ table =>
    match table.find? key with
    | none => some (table.add key (.table .defined []))
    | some (.table .implied inner) => some (table.replace key (.table .defined inner))
    | some _ => none) path .defined members

/-- A doubled header adds one more table to a list that only such headers make. -/
def openItem (path : List String) (key : String) (members : Members) : Option Members :=
  descend false (fun _ table =>
    match table.find? key with
    | none => some (table.add key (.tables [[]]))
    | some (.tables items) => some (table.replace key (.tables (items ++ [[]])))
    | some _ => none) path .defined members

end Members

mutual

def Node.value : Node → Value
  | .leaf value => value
  | .table _ members => .table (membersValue members)
  | .tables items => .list (itemsValue items)

def membersValue : List (String × Node) → List (String × Value)
  | [] => []
  | (key, node) :: rest => (key, node.value) :: membersValue rest

def itemsValue : List (List (String × Node)) → List Value
  | [] => []
  | members :: rest => .table (membersValue members) :: itemsValue rest

end

end WeblogFront.Toml
