import WeblogFront.Text.Numeral

/-! Floating-point numbers of 64 bits, as exact values. A finite number is a significand below 2^53
times a power of two; reading rounds a decimal to the nearest number, ties to the even significand,
and writing takes the fewest digits that read back. -/
namespace WeblogFront

inductive Binary64 where
  | finite (negative : Bool) (significand : Nat) (exponent : Int)
  | infinite (negative : Bool)
  | notANumber
  deriving DecidableEq

namespace Binary64

def inUnit (numerator denominator : Nat) (exponent : Int) : Nat × Nat :=
  match exponent with
  | .ofNat e => (numerator, denominator * Nat.pow 2 e)
  | .negSucc e => (numerator * Nat.pow 2 (e + 1), denominator)

/-- To the nearest natural, a half to the even neighbour. -/
def nearest (numerator denominator : Nat) : Nat :=
  let quotient := numerator / denominator
  let twice := 2 * (numerator % denominator)
  if twice < denominator then quotient
  else if denominator < twice then quotient + 1
  else quotient + quotient % 2

/-- The exponent that leaves a quotient with 53 bits, or the least exponent there is. -/
def unitFor (numerator denominator : Nat) : Int :=
  let guess : Int := (numerator.log2 : Int) - denominator.log2 - 53
  let scaled := inUnit numerator denominator guess
  let fitting := if scaled.1 / scaled.2 < Nat.pow 2 53 then guess else guess + 1
  max fitting (-1074)

def ofQuotient (negative : Bool) (numerator denominator : Nat) : Binary64 :=
  if numerator = 0 then .finite negative 0 (-1074)
  else
    let exponent := unitFor numerator denominator
    let scaled := inUnit numerator denominator exponent
    let significand := nearest scaled.1 scaled.2
    let carried := significand = Nat.pow 2 53
    let exponent := if carried then exponent + 1 else exponent
    if 971 < exponent then .infinite negative
    else .finite negative (if carried then Nat.pow 2 52 else significand) exponent

/-- The number nearest to `digits` times 10^scale. Far outside the range the powers need not be built. -/
def ofDecimal (negative : Bool) (digits : Nat) (scale : Int) : Binary64 :=
  let places : Int := (Text.decimal digits).length + scale
  if digits = 0 then .finite negative 0 (-1074)
  else if 310 < places then .infinite negative
  else if places < -330 then .finite negative 0 (-1074)
  else
    match scale with
    | .ofNat s => ofQuotient negative (digits * Nat.pow 10 s) 1
    | .negSucc s => ofQuotient negative digits (Nat.pow 10 (s + 1))

def isZero : Binary64 → Bool
  | .finite _ significand _ => significand = 0
  | _ => false

def isFinite : Binary64 → Bool
  | .finite .. => true
  | _ => false

/-- A half goes away from zero; what has no natural near it goes to the nearer end of the range. -/
def toNatural (bound : Nat) : Binary64 → Nat
  | .finite true .. => 0
  | .finite false significand exponent =>
    let scaled := inUnit significand 1 (-exponent)
    min bound ((2 * scaled.1 + scaled.2) / (2 * scaled.2))
  | .infinite true => 0
  | .infinite false => bound
  | .notANumber => 0

def places (numerator denominator : Nat) : Int :=
  if denominator ≤ numerator then (Text.decimal (numerator / denominator)).length
  else
    let zeros := (List.range 400).find? fun count => denominator ≤ numerator * Nat.pow 10 (count + 1)
    Int.negOfNat (zeros.getD 400)

/-- The interval of quotients that round to a significand, all in quarters of its unit. -/
def reach (significand : Nat) (exponent : Int) : Nat × Nat :=
  let narrow := significand = Nat.pow 2 52 && -1074 < exponent
  (4 * significand - (if narrow then 1 else 2), 4 * significand + 2)

/-- The one of two neighbours on a decimal grid that reads back; the nearer one when both do. -/
def onGrid (significand : Nat) (exponent : Int) (scale : Int) : Option Nat :=
  let value := inUnit significand 1 (-exponent)
  let step := match scale with
    | .ofNat s => (value.1, value.2 * Nat.pow 10 s)
    | .negSucc s => (value.1 * Nat.pow 10 (s + 1), value.2)
  let below := step.1 / step.2
  let ends := reach significand exponent
  let even := significand % 2 = 0
  let holds (candidate : Nat) : Bool :=
    let left := candidate * step.2 * 4 * significand
    let low := ends.1 * step.1
    let high := ends.2 * step.1
    if even then low ≤ left && left ≤ high else low < left && left < high
  let nearBelow := 2 * (step.1 % step.2) < step.2
  let nearTie := 2 * (step.1 % step.2) = step.2
  match holds below, holds (below + 1) with
  | true, true =>
    if nearBelow || (nearTie && below % 2 = 0) then some below else some (below + 1)
  | true, false => some below
  | false, true => some (below + 1)
  | false, false => none

/-- Digits and scale of the shortest decimal that reads back, by growing digit count. The first grid is
that of the power of ten above the number, which may read back as well. -/
def shortest (significand : Nat) (exponent : Int) : Nat × Int :=
  let quotient := inUnit significand 1 (-exponent)
  let before := places quotient.1 quotient.2
  let tries := (List.range 18).filterMap fun count =>
    let scale := before - Int.ofNat count
    (onGrid significand exponent scale).map fun digits => (digits, scale)
  tries.head?.getD (significand, exponent)

def positional (digits : Nat) (scale : Int) : List Char :=
  let text := Text.decimal digits
  match scale with
  | .ofNat s => text ++ List.replicate s '0'
  | .negSucc s =>
    let fraction := s + 1
    if fraction < text.length then
      text.take (text.length - fraction) ++ '.' :: text.drop (text.length - fraction)
    else '0' :: '.' :: List.replicate (fraction - text.length) '0' ++ text

def signText (negative : Bool) : List Char :=
  if negative then ['-'] else []

def text : Binary64 → List Char
  | .finite negative significand exponent =>
    if significand = 0 then signText negative ++ ['0']
    else
      let decimal := shortest significand exponent
      signText negative ++ positional decimal.1 decimal.2
  | .infinite negative => signText negative ++ ['i', 'n', 'f']
  | .notANumber => ['N', 'a', 'N']

end Binary64

end WeblogFront
