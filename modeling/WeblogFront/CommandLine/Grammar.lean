import WeblogFront.Text.Case
import WeblogFront.Text.Cut
import WeblogFront.Text.Numeral

/-! Command lines. A command takes long options with one value each, switches without a value, help,
perhaps a version, and either one operand or subcommands. The value of an option stands behind `=` or
is the next word; in the second case it is only looked at when the next option comes or the words are
at an end, so an unknown argument is noticed before a bad value in front of it. -/
namespace WeblogFront.CommandLine

inductive ArgumentError where
  | unknownArgument
  | invalidSubcommand
  | missingRequiredArgument
  | invalidValue
  | valueValidation
  | argumentConflict
  | tooManyValues
  | displayHelp
  | displayVersion
  deriving DecidableEq

inductive Form where
  | text
  | path
  | port
  | count
  | truth
  deriving DecidableEq

inductive Argument where
  | text (value : String)
  | number (value : Nat)
  | truth (value : Bool)
  | present
  deriving DecidableEq

structure Command where
  options : List (String × Form)
  switches : List String
  versioned : Bool
  operand : Bool
  subcommands : List String

def trueWords : List String := ["y", "yes", "t", "true", "on", "1"]

def falseWords : List String := ["n", "no", "f", "false", "off", "0"]

def truth? (text : String) : Option Bool :=
  if Text.isOneOf trueWords text then some true
  else if Text.isOneOf falseWords text then some false
  else none

/-- A port is read as a signed number first, so that a sign is no fault in itself. -/
def port? (text : String) : Option Nat :=
  match Text.word? text.toList with
  | some (.ofNat n) => if n < Nat.pow 2 16 then some n else none
  | _ => none

def count? (text : String) : Option Nat :=
  Text.bounded? Text.maxWord64 text.toList

def valid (reading : Option α) (wrap : α → Argument) : Except ArgumentError Argument :=
  match reading with
  | some value => .ok (wrap value)
  | none => .error .valueValidation

def Form.read (form : Form) (text : String) : Except ArgumentError Argument :=
  match form with
  | .text => .ok (.text text)
  | .path => if text.isEmpty then .error .invalidValue else .ok (.text text)
  | .port => valid (port? text) .number
  | .count => valid (count? text) .number
  | .truth => valid (truth? text) .truth

inductive Word where
  | escape
  | long (name : String) (value : Option String)
  | short (letter : Char)
  | plain
  deriving DecidableEq

def Word.of (word : String) : Word :=
  match word.toList with
  | ['-', '-'] => .escape
  | '-' :: '-' :: rest =>
    let cut := Text.cutOnce '=' rest
    .long (String.ofList cut.1) (cut.2.map String.ofList)
  | '-' :: letter :: _ => .short letter
  | _ => .plain

structure Waiting where
  option : String
  form : Form
  value : Option String
  deriving DecidableEq

structure Scan where
  waiting : Option Waiting
  trailing : Bool
  given : List (String × Argument)
  operand : Option String
  deriving DecidableEq

namespace Scan

def start : Scan := ⟨none, false, [], none⟩

/-- The next word is the value of an option, whatever it says, unless it looks like an option. -/
def expects (scan : Scan) : Bool :=
  match scan.waiting with
  | some waiting => waiting.value.isNone
  | none => false

def store (scan : Scan) (name : String) (argument : Except ArgumentError Argument) :
    Except ArgumentError Scan :=
  if (scan.given.lookup name).isSome then .error .argumentConflict
  else argument.map fun value => { scan with given := scan.given ++ [(name, value)] }

def settle (scan : Scan) : Except ArgumentError Scan :=
  match scan.waiting with
  | none => .ok scan
  | some waiting =>
    match waiting.value with
    | none => .error .invalidValue
    | some value =>
      { scan with waiting := none }.store waiting.option (waiting.form.read value)

def long (command : Command) (scan : Scan) (name : String) (value : Option String) :
    Except ArgumentError Scan :=
  match command.options.lookup name, value with
  | some form, some value => do (← scan.settle).store name (form.read value)
  | some form, none => do
    let settled ← scan.settle
    .ok { settled with waiting := some ⟨name, form, none⟩ }
  | none, value =>
    let known := command.switches.contains name || name = "help"
      || (command.versioned && name = "version")
    if !known then .error .unknownArgument
    else if value.isSome then .error .tooManyValues
    else do
      let settled ← scan.settle
      if command.switches.contains name then settled.store name (.ok .present)
      else if name = "help" then .error .displayHelp
      else .error .displayVersion

def short (command : Command) (scan : Scan) (letter : Char) : Except ArgumentError Scan :=
  if letter = 'h' then do
    let _ ← scan.settle
    .error .displayHelp
  else if command.versioned && letter = 'V' then do
    let _ ← scan.settle
    .error .displayVersion
  else .error .unknownArgument

def plain (command : Command) (scan : Scan) (word : String) : Except ArgumentError Scan :=
  if command.operand && scan.operand.isNone then do
    let settled ← scan.settle
    .ok { settled with operand := some word }
  else if command.subcommands.isEmpty || (scan.trailing && command.subcommands.contains word) then
    .error .unknownArgument
  else .error .invalidSubcommand

def word (command : Command) (scan : Scan) (word : String) : Except ArgumentError Scan :=
  if scan.trailing then scan.plain command word
  else
    match Word.of word with
    | .escape => .ok { scan with trailing := true }
    | .long name value => scan.long command name value
    | .short letter => scan.short command letter
    | .plain =>
      match scan.waiting with
      | some ⟨option, form, none⟩ => .ok { scan with waiting := some ⟨option, form, some word⟩ }
      | _ => scan.plain command word

end Scan

def scanWords (command : Command) :
    Scan → List String → Except ArgumentError (Scan × Option (String × List String))
  | scan, [] => .ok (scan, none)
  | scan, word :: rest =>
    if !scan.trailing && !scan.expects && command.subcommands.contains word then
      .ok (scan, some (word, rest))
    else
      match scan.word command word with
      | .ok next => scanWords command next rest
      | .error error => .error error

/-- Help on a subcommand names it; there is nothing below a subcommand to ask about. -/
def helpError (command : Command) : List String → ArgumentError
  | [] => .displayHelp
  | [name] => if command.subcommands.contains name then .displayHelp else .invalidSubcommand
  | _ => .invalidSubcommand

def finish (command : Command) (words : List String) : Except ArgumentError Scan := do
  let (scan, _) ← scanWords command .start words
  let settled ← scan.settle
  if command.operand && settled.operand.isNone then .error .missingRequiredArgument else .ok settled

namespace Scan

def text? (scan : Scan) (name : String) : Option String :=
  match scan.given.lookup name with
  | some (.text value) => some value
  | _ => none

def number? (scan : Scan) (name : String) : Option Nat :=
  match scan.given.lookup name with
  | some (.number value) => some value
  | _ => none

def truth? (scan : Scan) (name : String) : Option Bool :=
  match scan.given.lookup name with
  | some (.truth value) => some value
  | _ => none

def isGiven (scan : Scan) (name : String) : Bool :=
  (scan.given.lookup name).isSome

end Scan

end WeblogFront.CommandLine
