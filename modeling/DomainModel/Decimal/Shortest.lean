import DomainModel.Decimal.Binary64

/-!
# Shortest decimals

The decimal of a binary floating-point number is the one with the fewest digits that still rounds to
it, and the nearest of those; a tie goes to the even digit. For each number of digits the two points
of the decimal grid around the number are tried.
-/

namespace DomainModel.Binary64

-- Powers mean the same under all imports.
attribute [local instance (high)] instPowNat

/-- A number and the ends of the interval of reals that round to it, over one denominator. -/
structure Interval where
  low : Nat
  value : Nat
  high : Nat
  den : Nat
  /-- Whether the ends themselves round to the number. -/
  closed : Bool
deriving Repr, DecidableEq

/-- The interval of `mantissa * 2 ^ exponent`. Below a power of two the numbers lie twice as
dense. -/
def interval (mantissa : Nat) (exponent : Int) : Interval :=
  let scale := 2 ^ (exponent - 2).toNat
  let below := if mantissa = 2 ^ (precision - 1) ∧ minExponent < exponent then 1 else 2
  { low := (4 * mantissa - below) * scale
    value := 4 * mantissa * scale
    high := (4 * mantissa + 2) * scale
    den := 2 ^ (2 - exponent).toNat
    closed := mantissa % 2 = 0 }

/-- The number of digits before the decimal point; for numbers below a tenth, minus the number of
zeros behind it. -/
def decimalOrder (num den : Nat) : Int :=
  if den ≤ num then (Nat.toDigits 10 (num / den)).length
  else -((List.range 400).find? fun z => den ≤ num * 10 ^ (z + 1)).getD 0

/-- The point of the grid `10 ^ power` that lies nearest to the number and rounds to it. -/
def onGrid? (i : Interval) (power : Int) : Option Nat :=
  let unit := i.den * 10 ^ power.toNat
  let scale := 10 ^ (-power).toNat
  let inside (c : Nat) : Bool :=
    if i.closed then i.low * scale ≤ c * unit ∧ c * unit ≤ i.high * scale
    else i.low * scale < c * unit ∧ c * unit < i.high * scale
  let c := i.value * scale / unit
  match inside c, inside (c + 1) with
  | true, true => some (roundDiv (i.value * scale) unit)
  | true, false => some c
  | false, true => some (c + 1)
  | false, false => none

/-- Digits and power of ten of the shortest decimal of `mantissa * 2 ^ exponent`. -/
def shortest (mantissa : Nat) (exponent : Int) : Nat × Int :=
  let i := interval mantissa exponent
  let order := decimalOrder i.value i.den
  let powers := (List.range 17).map fun n => order - (n + 1 : Nat)
  (powers.findSome? fun power => (onGrid? i power).map (·, power)).getD (0, 0)

structure DecimalFormat where
  /-- The places of the decimal point, counted from the first digit, that are written out. -/
  firstPoint : Int
  lastPoint : Int
  exponentWidth : Nat
deriving Repr, DecidableEq

/-- A point is written out from the third zero behind it up to the sixteenth digit before it; an
exponent has a sign and two digits. -/
def decimalFormat : DecimalFormat := ⟨-3, 16, 2⟩

def dropTrailingZeros (ds : List Char) : List Char :=
  (ds.reverse.dropWhile (· = '0')).reverse

/-- The digits with the point after the first `point` of them. -/
def DecimalFormat.layOut (f : DecimalFormat) (digits : List Char) (point : Int) : List Char :=
  if f.firstPoint ≤ point ∧ point ≤ f.lastPoint then
    if point ≤ 0 then "0.".toList ++ List.replicate (-point).toNat '0' ++ digits
    else
      let n := point.toNat
      let whole := digits.take n ++ List.replicate (n - digits.length) '0'
      let part := digits.drop n
      whole ++ '.' :: (if part.isEmpty then ['0'] else part)
  else
    let e := point - 1
    let exponent := Nat.toDigits 10 e.natAbs
    digits.take 1 ++ (if digits.length ≤ 1 then [] else '.' :: digits.drop 1)
      ++ 'e' :: (if e < 0 then '-' else '+')
      :: List.replicate (f.exponentWidth - exponent.length) '0' ++ exponent

def text : Binary64 → String
  | finite negative 0 _ => if negative then "-0.0" else "0.0"
  | finite negative m e =>
    let (digits, power) := shortest m e
    let all := Nat.toDigits 10 digits
    let body := decimalFormat.layOut (dropTrailingZeros all) (all.length + power)
    (if negative then "-" else "") ++ String.ofList body
  | infinite negative => if negative then "-inf" else "inf"
  | undefined => "nan"

end DomainModel.Binary64
