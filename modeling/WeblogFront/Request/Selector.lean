import WeblogFront.Text.Form
import WeblogFront.Text.Numeral

/-! The small languages inside a page address: tag lists, dates and locales. -/
namespace WeblogFront.Request

def isTagSeparator (c : Char) : Bool :=
  c = ' ' || c = ',' || c = '\n' || c = '\r' || c = '\t' || c.toNat = 0x0C

/-- Tags in the order they are written, repetitions included; empty runs are no tags. -/
def splitTags (text : String) : List String :=
  ((Text.pieces isTagSeparator text.toList).filter fun run => !run.isEmpty).map String.ofList

/-- Where the order and the number of mentions do not matter: each tag once, in ascending order. -/
def insertTag (tag : String) : List String → List String
  | [] => [tag]
  | present :: rest =>
    if tag < present then tag :: present :: rest
    else if tag = present then present :: rest
    else present :: insertTag tag rest

def canonicalTags (tags : List String) : List String :=
  tags.foldl (fun sorted tag => insertTag tag sorted) []

/-- A month or a day: six or eight digits, which no calendar checks. -/
def isDate (text : String) : Bool :=
  let digits := text.toList
  (digits.length = 6 || digits.length = 8) && digits.all Text.isDigit

/-- A language, or a language and a country; a part is known by its two octets alone. -/
def isLocale (text : String) : Bool :=
  match Text.pieces (· == '_') text.toList with
  | [language] => Text.octetLength language = 2
  | [language, country] => Text.octetLength language = 2 && Text.octetLength country = 2
  | _ => false

end WeblogFront.Request
