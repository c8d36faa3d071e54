import WeblogFront.Settings.LogLevel
import WeblogFront.Text.Cut

/-! A filter for the log, which an environment variable may set. It is a list of rules with commas
between them. A rule gives a level, the beginning of a part's name with or without a level, or a span;
a name without a level stands for all levels. Rules that cannot be read count for nothing, and where no
rule is left the level of the settings holds. -/
namespace WeblogFront.Settings

structure LogRule where
  part : List Char
  level : LogLevel
  inSpan : Bool
  deriving DecidableEq

namespace LogRule

def isNameChar (c : Char) : Bool :=
  c.isAlphanum || c = '_' || c = ':' || c = '-'

def levelAfter? (text : List Char) : Option LogLevel :=
  if text.isEmpty then some .trace else LogLevel.parse? (String.ofList text)

def ofWord (word : List Char) : LogRule :=
  match LogLevel.parse? (String.ofList word) with
  | some level => ⟨[], level, false⟩
  | none => ⟨word, .trace, false⟩

def parse? (text : List Char) : Option LogRule :=
  let name := text.takeWhile isNameChar
  match text.drop name.length with
  | [] => if name.isEmpty then none else some (ofWord name)
  | '=' :: level =>
    if name.isEmpty then none else (levelAfter? level).map fun level => ⟨name, level, false⟩
  | '[' :: rest =>
    match Text.cutOnce ']' rest with
    | (_, some []) => some ⟨name, .trace, true⟩
    | (_, some ('=' :: level)) => (levelAfter? level).map fun level => ⟨name, level, true⟩
    | _ => none
  | _ => none

/-- A rule on a span says nothing about what happens outside of all spans. -/
def concerns (rule : LogRule) (part : List Char) : Bool :=
  !rule.inSpan && rule.part.isPrefixOf part

/-- The longer name decides, and of two rules for one name the later one. -/
def stronger (best : Option LogRule) (rule : LogRule) : Option LogRule :=
  match best with
  | some earlier => if earlier.part.length ≤ rule.part.length then some rule else best
  | none => some rule

end LogRule

namespace LogFilter

def rules (text : String) : List LogRule :=
  (Text.pieces (· == ',') text.toList).filterMap LogRule.parse?

def levelFor (text : String) (standard : LogLevel) (part : String) : LogLevel :=
  if (rules text).isEmpty then standard
  else
    let concerning := (rules text).filter fun rule => rule.concerns part.toList
    match concerning.foldl LogRule.stronger none with
    | some rule => rule.level
    | none => .off

end LogFilter

end WeblogFront.Settings
