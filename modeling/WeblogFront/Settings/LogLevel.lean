import WeblogFront.Text.Case
import WeblogFront.Text.Numeral

/-! How much is logged. A level is named in any case of letters, or numbered from zero for nothing to
five for everything; an empty name means errors only. -/
namespace WeblogFront.Settings

inductive LogLevel where
  | off
  | error
  | warn
  | info
  | debug
  | trace
  deriving DecidableEq

namespace LogLevel

def all : List LogLevel := [off, error, warn, info, debug, trace]

def name : LogLevel → String
  | off => "off"
  | error => "error"
  | warn => "warn"
  | info => "info"
  | debug => "debug"
  | trace => "trace"

def parse? (text : String) : Option LogLevel :=
  match (Text.bounded? Text.maxWord64 text.toList).bind fun number => all[number]? with
  | some level => some level
  | none =>
    if text.isEmpty then some error else all.find? fun level => Text.isOneOf [level.name] text

end LogLevel

end WeblogFront.Settings
