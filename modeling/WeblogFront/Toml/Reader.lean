import WeblogFront.Toml.Scalar
import WeblogFront.Toml.Tree

/-! Reading TOML documents. Values nest, so three readers call each other; each call reads at least one
character or is one of three on the same character, and the bound they share is taken from the length
of the text. -/
namespace WeblogFront.Toml

def isKeyChar (c : Char) : Bool :=
  c.isAlphanum || c = '_' || c = '-'

def keyPart : List Char → Option (String × List Char)
  | '"' :: rest => (lineString '"' rest).map fun found => (String.ofList found.1, found.2)
  | '\'' :: rest => (lineString '\'' rest).map fun found => (String.ofList found.1, found.2)
  | text =>
    let name := text.takeWhile isKeyChar
    if name.isEmpty then none else some (String.ofList name, text.drop name.length)

def dottedKey : Nat → List Char → Option ((List String × String) × List Char)
  | 0, _ => none
  | fuel + 1, text => do
    let (part, rest) ← keyPart (skipBlanks text)
    match skipBlanks rest with
    | '.' :: more =>
      let ((path, last), left) ← dottedKey fuel more
      some ((part :: path, last), left)
    | left => some (([], part), left)

/-- Lists and braces may nest this deep, and so may the tables that one key leads through. -/
def depthLimit : Nat := 80

def key (text : List Char) : Option ((List String × String) × List Char) :=
  (dottedKey (text.length + 1) text).filter fun found => found.1.1.length < depthLimit

mutual

def readValue : Nat → Nat → List Char → Option (Value × List Char)
  | 0, _, _ => none
  | fuel + 1, depth, text =>
    match text with
    | '"' :: '"' :: '"' :: rest =>
      (linesString '"' rest).map fun found => (.text (String.ofList found.1), found.2)
    | '\'' :: '\'' :: '\'' :: rest =>
      (linesString '\'' rest).map fun found => (.text (String.ofList found.1), found.2)
    | '"' :: rest => (lineString '"' rest).map fun found => (.text (String.ofList found.1), found.2)
    | '\'' :: rest =>
      (lineString '\'' rest).map fun found => (.text (String.ofList found.1), found.2)
    | '[' :: rest =>
      if depth = 0 then none
      else (readItems fuel (depth - 1) rest).map fun found => (.list found.1, found.2)
    | '{' :: rest =>
      if depth = 0 then none
      else
        (readMembers fuel (depth - 1) [] rest).map fun found =>
          (.table (membersValue found.1), found.2)
    | _ => readScalar text

def readItems : Nat → Nat → List Char → Option (List Value × List Char)
  | 0, _, _ => none
  | fuel + 1, depth, text => do
    match ← skipLines false text with
    | ']' :: rest => some ([], rest)
    | start =>
      let (item, rest) ← readValue fuel depth start
      match ← skipLines false rest with
      | ']' :: left => some ([item], left)
      | ',' :: more =>
        let (items, left) ← readItems fuel depth more
        some (item :: items, left)
      | _ => none

/-- The members between braces, added one by one to those already read. Lines may end anywhere between
two of their parts, on both sides of the equals sign as well. -/
def readMembers : Nat → Nat → Members → List Char → Option (Members × List Char)
  | 0, _, _, _ => none
  | fuel + 1, depth, members, text => do
    match ← skipLines false text with
    | '}' :: rest => some (members, rest)
    | start =>
      let ((path, last), rest) ← key start
      match ← skipLines false rest with
      | '=' :: more =>
        let (value, left) ← readValue fuel depth (← skipLines false more)
        let members ← members.assign path last (.leaf value) .defined
        match ← skipLines false left with
        | '}' :: after => some (members, after)
        | ',' :: after => readMembers fuel depth members after
        | _ => none
      | _ => none

end

structure Draft where
  header : List String
  members : Members

def header (text : List Char) (close : List Char) : Option ((List String × String) × List Char) := do
  let (found, rest) ← key text
  let left ← if close.isPrefixOf rest then some (rest.drop close.length) else none
  let after ← endOfLine left
  some (found, after)

def statement (draft : Draft) (text : List Char) : Option (Draft × List Char) :=
  match text with
  | '[' :: '[' :: rest => do
    let ((path, last), left) ← header rest [']', ']']
    let members ← draft.members.openItem path last
    some (⟨path ++ [last], members⟩, left)
  | '[' :: rest => do
    let ((path, last), left) ← header rest [']']
    let members ← draft.members.openTable path last
    some (⟨path ++ [last], members⟩, left)
  | _ => do
    let ((path, last), rest) ← key text
    match rest with
    | '=' :: more =>
      let (value, left) ← readValue (3 * more.length + 3) depthLimit (skipBlanks more)
      let members ← draft.members.assignUnder draft.header path last (.leaf value)
      let after ← endOfLine left
      some ({ draft with members := members }, after)
    | _ => none

def statements : Nat → Draft → List Char → Option Draft
  | 0, _, _ => none
  | fuel + 1, draft, text => do
    match ← skipLines false text with
    | [] => some draft
    | start =>
      let (draft, rest) ← statement draft start
      statements fuel draft rest

def dropMark : List Char → List Char
  | '\uFEFF' :: rest => rest
  | text => text

def document? (text : String) : Option (List (String × Value)) :=
  let text := dropMark text.toList
  (statements (text.length + 1) ⟨[], []⟩ text).map fun draft => membersValue draft.members

end WeblogFront.Toml
