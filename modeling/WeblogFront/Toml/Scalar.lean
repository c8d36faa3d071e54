import WeblogFront.Toml.Lexeme
import WeblogFront.Value

/-! Numbers, truth values and moments in TOML. Each is read from the whole run of characters that could
belong to it, so nothing is read in part. -/
namespace WeblogFront.Toml

def ungroup? (isDigit : Char → Bool) : List Char → Option (List Char)
  | [] => none
  | [c] => if isDigit c then some [c] else none
  | c :: '_' :: d :: rest =>
    if isDigit c then (ungroup? isDigit (d :: rest)).map (c :: ·) else none
  | c :: d :: rest => if isDigit c then (ungroup? isDigit (d :: rest)).map (c :: ·) else none

def splitSign : List Char → Bool × List Char
  | '-' :: rest => (true, rest)
  | '+' :: rest => (false, rest)
  | text => (false, text)

def leading? (text : List Char) : Option (List Char) :=
  match ungroup? Text.isDigit text with
  | some ['0'] => some ['0']
  | some ('0' :: _) => none
  | digits => digits

def signedValue (negative : Bool) (magnitude : Nat) : Int :=
  if negative then -(magnitude : Int) else magnitude

def inBase? (base : Nat) (text : List Char) : Option Int := do
  let digits ← ungroup? (fun c => ((Text.hexDigit? c).getD base) < base) text
  let values ← digits.mapM Text.hexDigit?
  some (Int.ofNat (values.foldl (fun total digit => total * base + digit) 0))

/-- Integers of more than 128 bits are refused; narrower bounds are for whoever uses the number. -/
def integer? (text : List Char) : Option Int := do
  let found ← match text with
    | '0' :: 'x' :: rest => inBase? 16 rest
    | '0' :: 'o' :: rest => inBase? 8 rest
    | '0' :: 'b' :: rest => inBase? 2 rest
    | _ =>
      let (negative, rest) := splitSign text
      (leading? rest).map fun digits => signedValue negative (Text.digitsValue digits)
  if -(Nat.pow 2 127 : Int) ≤ found && found < Nat.pow 2 128 then some found else none

def exponent? (text : List Char) : Option Int :=
  let (negative, rest) := splitSign text
  (ungroup? Text.isDigit rest).map fun digits => signedValue negative (Text.digitsValue digits)

def decimal? (negative : Bool) (text : List Char) : Option Binary64 := do
  let mantissa := text.takeWhile fun c => c != 'e' && c != 'E'
  let scale ← match text.drop mantissa.length with
    | [] => some 0
    | _ :: exponent => exponent? exponent
  let whole := mantissa.takeWhile (· != '.')
  let digits ← leading? whole
  let fraction ← match mantissa.drop whole.length with
    | [] => if mantissa.length = text.length then none else some []
    | _ :: fraction => ungroup? Text.isDigit fraction
  some (.ofDecimal negative (Text.digitsValue (digits ++ fraction)) (scale - fraction.length))

/-- A decimal past the largest number is refused; infinity has to be written as such. -/
def real? (text : List Char) : Option Binary64 :=
  let (negative, rest) := splitSign text
  if rest = ['i', 'n', 'f'] then some (.infinite negative)
  else if rest = ['n', 'a', 'n'] then some .notANumber
  else (decimal? negative rest).filter Binary64.isFinite

def isLeapYear (year : Nat) : Bool :=
  year % 4 = 0 && (year % 100 != 0 || year % 400 = 0)

def daysIn (year month : Nat) : Nat :=
  if month = 2 then if isLeapYear year then 29 else 28
  else if month = 4 || month = 6 || month = 9 || month = 11 then 30
  else 31

def twoDigits? (a b : Char) (least most : Nat) : Option (List Char) :=
  match Text.natural? [a, b] with
  | some n => if least ≤ n && n ≤ most then some [a, b] else none
  | none => none

def date? : List Char → Option (List Char × List Char)
  | a :: b :: c :: d :: '-' :: e :: f :: '-' :: g :: h :: rest => do
    let year ← Text.natural? [a, b, c, d]
    let month ← Text.natural? [e, f]
    let day ← Text.natural? [g, h]
    if 1 ≤ month && month ≤ 12 && 1 ≤ day && day ≤ daysIn year month then
      some ([a, b, c, d, '-', e, f, '-', g, h], rest)
    else none
  | _ => none

/-- Nine digits of a fraction are kept, without the zeros at their end; of nothing but zeros one stays. -/
def keptFraction (digits : List Char) : List Char :=
  match ((digits.take 9).reverse.dropWhile (· == '0')).reverse with
  | [] => ['.', '0']
  | kept => '.' :: kept

def fraction? : List Char → Option (List Char × List Char)
  | '.' :: rest =>
    let digits := rest.takeWhile Text.isDigit
    if digits.isEmpty then none else some (keptFraction digits, rest.drop digits.length)
  | text => some ([], text)

def time? : List Char → Option (List Char × List Char)
  | a :: b :: ':' :: c :: d :: rest => do
    let hour ← twoDigits? a b 0 23
    let minute ← twoDigits? c d 0 59
    match rest with
    | ':' :: e :: f :: more =>
      let second ← twoDigits? e f 0 60
      let (fraction, left) ← fraction? more
      some (hour ++ ':' :: minute ++ ':' :: second ++ fraction, left)
    | _ => some (hour ++ ':' :: minute, rest)
  | _ => none

/-- The way from UTC in hours and minutes. No way at all has a plus sign, however it is written. -/
def offset? : List Char → Option (List Char)
  | [] => some []
  | ['Z'] => some ['Z']
  | ['z'] => some ['Z']
  | [sign, a, b, ':', c, d] => do
    let hour ← twoDigits? a b 0 23
    let minute ← twoDigits? c d 0 59
    let zero := hour = ['0', '0'] && minute = ['0', '0']
    if sign = '+' || (sign = '-' && zero) then some ('+' :: hour ++ ':' :: minute)
    else if sign = '-' then some ('-' :: hour ++ ':' :: minute)
    else none
  | _ => none

def moment? (text : List Char) : Option (List Char) :=
  match date? text with
  | some (date, []) => some date
  | some (date, separator :: rest) =>
    if separator = 'T' || separator = 't' || separator = ' ' then do
      let (time, left) ← time? rest
      let offset ← offset? left
      some (date ++ 'T' :: time ++ offset)
    else none
  | none =>
    match time? text with
    | some (time, []) => some time
    | _ => none

def isRunChar (c : Char) : Bool :=
  c.isAlphanum || c = '+' || c = '-' || c = '.' || c = ':' || c = '_'

/-- The run at the head of the text; a day and a time may stand apart by one space. -/
def run (text : List Char) : List Char × List Char :=
  let first := text.takeWhile isRunChar
  let rest := text.drop first.length
  match date? first, rest with
  | some (_, []), ' ' :: c :: more =>
    if Text.isDigit c then
      let second := (c :: more).takeWhile isRunChar
      (first ++ ' ' :: second, (c :: more).drop second.length)
    else (first, rest)
  | _, _ => (first, rest)

def scalarOf? (text : List Char) : Option Value :=
  if text = ['t', 'r', 'u', 'e'] then some (.flag true)
  else if text = ['f', 'a', 'l', 's', 'e'] then some (.flag false)
  else
    match integer? text with
    | some found => some (.integer found)
    | none =>
      match real? text with
      | some found => some (.real found)
      | none => (moment? text).map fun found => .moment (String.ofList found)

def readScalar (text : List Char) : Option (Value × List Char) :=
  let (word, rest) := run text
  (scalarOf? word).map fun found => (found, rest)

end WeblogFront.Toml
