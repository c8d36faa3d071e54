import WeblogFront.Text.Numeral
import WeblogFront.Text.Picture

/-! Quoted text for reports. A reader can tell where the text ends and which characters it holds: the
quote, the reverse solidus and the usual controls have a two-character form, and a character without
a picture is named by its code point in braces. -/
namespace WeblogFront.Text

def codePoint (c : Char) : List Char :=
  ['\\', 'u', '{'] ++ lowerHex c.toNat ++ ['}']

def quoteChar (c : Char) : List Char :=
  if c = '"' then ['\\', '"']
  else if c = '\\' then ['\\', '\\']
  else if c.toNat = 0 then ['\\', '0']
  else if c = '\t' then ['\\', 't']
  else if c = '\n' then ['\\', 'n']
  else if c = '\r' then ['\\', 'r']
  else if 0x20 ≤ c.toNat && c.toNat < 0x7F then [c]
  else if isPicture c then [c]
  else codePoint c

def quote (text : String) : String :=
  String.ofList ('"' :: text.toList.flatMap quoteChar ++ ['"'])

def quoteAll (texts : List String) : String :=
  "[" ++ ", ".intercalate (texts.map quote) ++ "]"

end WeblogFront.Text
