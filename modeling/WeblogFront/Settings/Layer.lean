import WeblogFront.Text.Cut
import WeblogFront.Value

/-! Layers of settings. A layer is a table; a later layer goes over an earlier one key by key, down to
the values that are no tables. -/
namespace WeblogFront.Settings

abbrev Layer := List (String × Value)

def put (key : String) (value : Value) : Layer → Layer
  | [] => [(key, value)]
  | (present, old) :: rest =>
    if present = key then (key, value) :: rest else (present, old) :: put key value rest

def membersOf : Value → Layer
  | .table members => members
  | _ => []

mutual

/-- A table goes into what is already there, anything else takes its place. -/
def lay (key : String) (value : Value) (layer : Layer) : Layer :=
  match value with
  | .table members => put key (layInto members ((layer.lookup key).getD (.table []))) layer
  | other => put key other layer

def layInto : List (String × Value) → Value → Value
  | [], target => target
  | (key, value) :: rest, target => layInto rest (.table (lay key value (membersOf target)))

end

/-- One stride of a path through values: to a member of a table or to an item of a list. A negative
position counts from the end of the list. -/
inductive Stride where
  | member (key : String)
  | item (position : Int)
  deriving DecidableEq

def isPathChar (c : Char) : Bool :=
  c.isAlphanum || c = '_' || c = '-'

def isInnerBlank (c : Char) : Bool :=
  c = ' ' || c = '\t'

/-- A position in brackets: digits, at most one minus sign in front of them, and blanks around both. -/
def position? (text : List Char) : Option Int :=
  match Text.trimEnds isInnerBlank text with
  | '+' :: _ => none
  | digits => Text.word? digits

def positions? : Nat → List Char → Option (List Stride)
  | _, [] => some []
  | 0, _ => none
  | fuel + 1, '[' :: rest =>
    match Text.cutOnce ']' rest with
    | (inside, some after) => do
      let position ← position? inside
      let others ← positions? fuel after
      some (.item position :: others)
    | (_, none) => none
  | _, _ => none

def strides? (text : List Char) : Option (List Stride) :=
  let name := text.takeWhile isPathChar
  if name.isEmpty then none
  else (positions? text.length (text.drop name.length)).map (.member (String.ofList name) :: ·)

/-- A top-level key with points or positions in it leads into tables and lists, unless it is no path as a
whole; then it is one key as it stands. -/
def keyPath (key : String) : List Stride :=
  match (Text.pieces (· == '.') key.toList).mapM strides? with
  | some parts => parts.flatten
  | none => [.member key]

def itemsOf : Value → List Value
  | .list items => items
  | _ => []

/-- The items with one of them changed. Places that are missing up to it are filled with nulls, behind the
items or, for a position before the first one, in front of them. -/
def changeItem (position : Int) (change : Value → Value) (items : List Value) : List Value :=
  match position with
  | .ofNat index =>
    (items ++ List.replicate (index + 1 - items.length) Value.null).modify index change
  | .negSucc fromEnd =>
    let padded := List.replicate (fromEnd + 1 - items.length) Value.null ++ items
    padded.modify (padded.length - (fromEnd + 1)) change

/-- A value at the end of a path. What is on the way and no table or list, as the path wants it, gives
way to an empty one. -/
def layAt : List Stride → Value → Value → Value
  | [], value, _ => value
  | [.member key], value, target => .table (lay key value (membersOf target))
  | .member key :: rest, value, target =>
    .table (put key (layAt rest value (((membersOf target).lookup key).getD .null)) (membersOf target))
  | .item position :: rest, value, target =>
    .list (changeItem position (layAt rest value) (itemsOf target))

def overlay (layer base : Layer) : Layer :=
  layer.foldl (fun merged member => membersOf (layAt (keyPath member.1) member.2 (.table merged))) base

/-- All layers, the first at the bottom. -/
def merged (layers : List Layer) : Layer :=
  layers.foldl (fun base layer => overlay layer base) []

end WeblogFront.Settings
