import WeblogFront.Text.Numeral

/-! The smallest parts of a TOML text: blanks, line ends, comments and quoted strings. Every reader takes
the text at its point and gives back what is left. -/
namespace WeblogFront.Toml

def isBlank (c : Char) : Bool :=
  c = ' ' || c = '\t'

def isControl (c : Char) : Bool :=
  (c.toNat < 0x20 && c != '\t') || c.toNat = 0x7F

def skipBlanks (text : List Char) : List Char :=
  text.dropWhile isBlank

/-- Blanks, line ends and comments; the flag tells whether the text is inside a comment. -/
def skipLines : Bool → List Char → Option (List Char)
  | _, [] => some []
  | _, '\n' :: rest => skipLines false rest
  | _, '\r' :: '\n' :: rest => skipLines false rest
  | true, c :: rest => if isControl c then none else skipLines true rest
  | false, '#' :: rest => skipLines true rest
  | false, c :: rest => if isBlank c then skipLines false rest else some (c :: rest)

def comment : List Char → Option (List Char)
  | [] => some []
  | '\n' :: rest => some ('\n' :: rest)
  | '\r' :: '\n' :: rest => some ('\n' :: rest)
  | c :: rest => if isControl c then none else comment rest

def endOfLine (text : List Char) : Option (List Char) :=
  match skipBlanks text with
  | [] => some []
  | '\n' :: rest => some rest
  | '\r' :: '\n' :: rest => some rest
  | '#' :: rest =>
    match comment rest with
    | some (_ :: after) => some after
    | some [] => some []
    | none => none
  | _ => none

/-- The text up to a quote, and the text after it. An escaped character is never the quote. -/
def untilQuote (quote : Char) (escapes : Bool) : List Char → Option (List Char × List Char)
  | [] => none
  | c :: rest =>
    if c = quote then some ([], rest)
    else if escapes && c = '\\' then
      match rest with
      | [] => none
      | escaped :: more =>
        (untilQuote quote escapes more).map fun cut => (c :: escaped :: cut.1, cut.2)
    else (untilQuote quote escapes rest).map fun cut => (c :: cut.1, cut.2)

/-- The same for three quotes in a row; one or two more in front of them belong to the text. -/
def untilQuotes (quote : Char) (escapes : Bool) : List Char → Option (List Char × List Char)
  | [] => none
  | c :: rest =>
    if c = quote && [quote, quote].isPrefixOf rest then
      let after := rest.drop 2
      let extra := (after.takeWhile (· == quote)).take 2
      some (extra, after.drop extra.length)
    else if escapes && c = '\\' then
      match rest with
      | [] => none
      | escaped :: more =>
        (untilQuotes quote escapes more).map fun cut => (c :: escaped :: cut.1, cut.2)
    else (untilQuotes quote escapes rest).map fun cut => (c :: cut.1, cut.2)

def scalar? (digits : List Char) : Option Char :=
  match Text.hexadecimal? digits with
  | none => none
  | some n => if n.isValidChar then some (Char.ofNat n) else none

def simpleEscape? : Char → Option Char
  | 'b' => some (Char.ofNat 0x08)
  | 't' => some '\t'
  | 'n' => some '\n'
  | 'f' => some (Char.ofNat 0x0C)
  | 'r' => some '\r'
  | 'e' => some (Char.ofNat 0x1B)
  | '"' => some '"'
  | '\\' => some '\\'
  | _ => none

def startsLine (text : List Char) : Bool :=
  match skipBlanks text with
  | '\n' :: _ => true
  | '\r' :: '\n' :: _ => true
  | _ => false

/-- The text meant between quotes. Over several lines a line end stays as it is written, and an escaped
line end takes all blanks and line ends after it with it; `skipping` is set within those. -/
def unescape (lines skipping : Bool) : List Char → Option (List Char)
  | [] => some []
  | '\\' :: 'u' :: a :: b :: c :: d :: rest => do
    let head ← scalar? [a, b, c, d]
    let tail ← unescape lines false rest
    some (head :: tail)
  | '\\' :: 'U' :: a :: b :: c :: d :: e :: f :: g :: h :: rest => do
    let head ← scalar? [a, b, c, d, e, f, g, h]
    let tail ← unescape lines false rest
    some (head :: tail)
  | '\\' :: 'x' :: a :: b :: rest => do
    let head ← scalar? [a, b]
    let tail ← unescape lines false rest
    some (head :: tail)
  | '\\' :: c :: rest =>
    if lines && startsLine (c :: rest) then unescape lines true rest
    else
      match simpleEscape? c with
      | some head => (unescape lines false rest).map (head :: ·)
      | none => none
  | '\r' :: '\n' :: rest =>
    if !lines then none
    else if skipping then unescape lines true rest
    else (unescape lines false rest).map fun tail => '\r' :: '\n' :: tail
  | c :: rest =>
    if c = '\n' then
      if !lines then none
      else if skipping then unescape lines true rest
      else (unescape lines false rest).map ('\n' :: ·)
    else if skipping && isBlank c then unescape lines true rest
    else if isControl c || c = '\\' then none
    else (unescape lines false rest).map (c :: ·)

def verbatim (lines : Bool) : List Char → Option (List Char)
  | [] => some []
  | '\r' :: '\n' :: rest =>
    if lines then (verbatim lines rest).map fun tail => '\r' :: '\n' :: tail else none
  | c :: rest =>
    if c = '\n' then if lines then (verbatim lines rest).map ('\n' :: ·) else none
    else if isControl c then none
    else (verbatim lines rest).map (c :: ·)

def dropFirstLineEnd : List Char → List Char
  | '\n' :: rest => rest
  | '\r' :: '\n' :: rest => rest
  | text => text

def lineString (quote : Char) (text : List Char) : Option (List Char × List Char) := do
  let (content, rest) ← untilQuote quote (quote = '"') text
  let meant ← if quote = '"' then unescape false false content else verbatim false content
  some (meant, rest)

def linesString (quote : Char) (text : List Char) : Option (List Char × List Char) := do
  let (content, rest) ← untilQuotes quote (quote = '"') (dropFirstLineEnd text)
  let meant ← if quote = '"' then unescape true false content else verbatim true content
  some (meant, rest)

end WeblogFront.Toml
