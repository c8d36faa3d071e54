import WeblogFront.Text.Numeral

/-! Documents in JavaScript Object Notation, as they leave this program: members keep the order they
were given, and a string escapes the quote, the reverse solidus and the control characters below
the space, nothing else. -/
namespace WeblogFront

inductive Json where
  | null
  | flag (value : Bool)
  | number (value : Nat)
  | text (value : String)
  | list (items : List Json)
  | record (members : List (String × Json))

namespace Json

/-- Five control characters have a short escape; the others are spelled in four hexadecimal digits. -/
def escapeChar (c : Char) : List Char :=
  if c = '"' then ['\\', '"']
  else if c = '\\' then ['\\', '\\']
  else if c.toNat = 0x08 then ['\\', 'b']
  else if c.toNat = 0x09 then ['\\', 't']
  else if c.toNat = 0x0A then ['\\', 'n']
  else if c.toNat = 0x0C then ['\\', 'f']
  else if c.toNat = 0x0D then ['\\', 'r']
  else if c.toNat < 0x20 then
    ['\\', 'u', '0', '0', Nat.digitChar (c.toNat / 16), Nat.digitChar (c.toNat % 16)]
  else [c]

def quoted (text : String) : List Char :=
  '"' :: text.toList.flatMap escapeChar ++ ['"']

def flagText (value : Bool) : List Char :=
  if value then ['t', 'r', 'u', 'e'] else ['f', 'a', 'l', 's', 'e']

mutual

def compactChars : Json → List Char
  | .null => ['n', 'u', 'l', 'l']
  | .flag value => flagText value
  | .number value => Text.decimal value
  | .text value => quoted value
  | .list items => '[' :: compactItems items ++ [']']
  | .record members => '{' :: compactMembers members ++ ['}']

def compactItems : List Json → List Char
  | [] => []
  | [item] => compactChars item
  | item :: other :: rest => compactChars item ++ ',' :: compactItems (other :: rest)

def compactMembers : List (String × Json) → List Char
  | [] => []
  | [(name, value)] => quoted name ++ ':' :: compactChars value
  | (name, value) :: other :: rest =>
    quoted name ++ ':' :: compactChars value ++ ',' :: compactMembers (other :: rest)

end

def compact (document : Json) : String :=
  String.ofList (compactChars document)

def newline (depth : Nat) : List Char :=
  '\n' :: List.replicate (2 * depth) ' '

mutual

/-- One item or member a line, two blanks a level; empty lists and records stay closed. -/
def prettyChars (depth : Nat) : Json → List Char
  | .null => ['n', 'u', 'l', 'l']
  | .flag value => flagText value
  | .number value => Text.decimal value
  | .text value => quoted value
  | .list [] => ['[', ']']
  | .list (item :: rest) => '[' :: prettyItems depth (item :: rest) ++ newline depth ++ [']']
  | .record [] => ['{', '}']
  | .record (member :: rest) =>
    '{' :: prettyMembers depth (member :: rest) ++ newline depth ++ ['}']

def prettyItems (depth : Nat) : List Json → List Char
  | [] => []
  | [item] => newline (depth + 1) ++ prettyChars (depth + 1) item
  | item :: other :: rest =>
    newline (depth + 1) ++ prettyChars (depth + 1) item ++ ',' :: prettyItems depth (other :: rest)

def prettyMembers (depth : Nat) : List (String × Json) → List Char
  | [] => []
  | [(name, value)] =>
    newline (depth + 1) ++ quoted name ++ ':' :: ' ' :: prettyChars (depth + 1) value
  | (name, value) :: other :: rest =>
    newline (depth + 1) ++ quoted name ++ ':' :: ' ' :: prettyChars (depth + 1) value
      ++ ',' :: prettyMembers depth (other :: rest)

end

def pretty (document : Json) : String :=
  String.ofList (prettyChars 0 document)

def ofText? (text : Option String) : Json :=
  match text with
  | some value => .text value
  | none => .null

def ofTexts (texts : List String) : Json :=
  .list (texts.map .text)

def ofTexts? (texts : Option (List String)) : Json :=
  match texts with
  | some values => ofTexts values
  | none => .null

end Json

end WeblogFront
