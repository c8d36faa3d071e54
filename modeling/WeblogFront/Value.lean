import WeblogFront.Number.Binary64

/-! Values as a file or a message spells them, before anything gives them a type. A moment in time is
kept as a text. -/
namespace WeblogFront

inductive Value where
  | null
  | flag (value : Bool)
  | integer (value : Int)
  | real (value : Binary64)
  | text (value : String)
  | moment (written : String)
  | list (items : List Value)
  | table (members : List (String × Value))

instance : Inhabited Value := ⟨.null⟩

namespace Value

/-- Whether a list may go on after the last member of the record it stands for. -/
inductive Surplus where
  | refused
  | ignored
  deriving DecidableEq

/-- The member that is given under one of its names, if any; under two of them it is given twice. -/
def named? (names : List String) (members : List (String × Value)) : Option (Option Value) :=
  match members.filter fun member => names.contains member.1 with
  | [] => some none
  | [member] => some (some member.2)
  | _ => none

/-- The members of a record, each with its value when it is given: by name from a table, in which
unknown names do not matter, or by position from a list. -/
def fields? (surplus : Surplus) (names : List (List String)) : Value → Option (List (Option Value))
  | .table members => names.mapM fun spellings => named? spellings members
  | .list items =>
    if surplus = .refused && names.length < items.length then none
    else some ((List.range names.length).map fun position => items[position]?)
  | _ => none

end Value

end WeblogFront
