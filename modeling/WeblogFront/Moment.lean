import WeblogFront.Text.Numeral

/-! Moments: seconds since the start of 1970 in UTC, nanoseconds on top of them, and the offset from UTC,
in seconds, at which the moment is told. The written form is that of RFC 3339. -/
namespace WeblogFront

structure Moment where
  unix : Int
  nanos : Nat
  offset : Int
  deriving DecidableEq

/-- A part of a moment that the written form has no room for. -/
inductive UnwritableComponent where
  | year
  | offsetHour
  | offsetSecond
  deriving DecidableEq

def UnwritableComponent.name : UnwritableComponent → String
  | .year => "year"
  | .offsetHour => "offset_hour"
  | .offsetSecond => "offset_second"

def UnwritableComponent.message (component : UnwritableComponent) : String :=
  "The " ++ component.name ++ " component cannot be formatted into the requested format."

structure Date where
  year : Int
  month : Nat
  day : Nat
  deriving DecidableEq

/-- The calendar repeats every 400 years of 146097 days; a year that starts in March ends with its
leap day, and from March on the lengths of the months follow one rule. -/
def Date.ofDays (days : Int) : Date :=
  let shifted := days + 719468
  let era := shifted / 146097
  let dayOfEra := (shifted % 146097).toNat
  let yearOfEra := (dayOfEra - dayOfEra / 1460 + dayOfEra / 36524 - dayOfEra / 146096) / 365
  let dayOfYear := dayOfEra - (365 * yearOfEra + yearOfEra / 4 - yearOfEra / 100)
  let marchMonth := (5 * dayOfYear + 2) / 153
  let month := if marchMonth < 10 then marchMonth + 3 else marchMonth - 9
  { year := era * 400 + yearOfEra + (if month ≤ 2 then 1 else 0)
    month := month
    day := dayOfYear - (153 * marchMonth + 2) / 5 + 1 }

namespace Moment

def dropZeros (digits : List Char) : List Char :=
  (digits.reverse.dropWhile (· == '0')).reverse

def fraction (nanos : Nat) : List Char :=
  if nanos = 0 then [] else '.' :: dropZeros (Text.padded 9 nanos)

def offsetText (offset : Int) : List Char :=
  if offset = 0 then ['Z']
  else
    let minutes := offset.natAbs / 60
    (if offset < 0 then '-' else '+') :: Text.padded 2 (minutes / 60) ++ ':' ::
      Text.padded 2 (minutes % 60)

/-- Years have four digits, offsets have hours below a day and no seconds. -/
def rfc3339 (moment : Moment) : Except UnwritableComponent String :=
  let wall := moment.unix + moment.offset
  let date := Date.ofDays (wall / 86400)
  let second := (wall % 86400).toNat
  if date.year < 0 || 9999 < date.year then .error .year
  else if 23 < moment.offset.natAbs / 3600 then .error .offsetHour
  else if moment.offset.natAbs % 60 ≠ 0 then .error .offsetSecond
  else .ok (String.ofList (
    Text.padded 4 date.year.toNat ++ '-' :: Text.padded 2 date.month ++ '-' ::
    Text.padded 2 date.day ++ 'T' :: Text.padded 2 (second / 3600) ++ ':' ::
    Text.padded 2 (second / 60 % 60) ++ ':' :: Text.padded 2 (second % 60) ++
    fraction moment.nanos ++ offsetText moment.offset))

end Moment

/-- Two readings of the time: one that only measures spans, and the moment it is. -/
structure Clock where
  reading : Nat
  wall : Moment
  deriving DecidableEq

end WeblogFront
