/-!
# Binary floating-point numbers

A finite number is an integer of at most 53 bits times a power of two. `ofDecimal` rounds a decimal
to the nearest such number, a tie going to the even integer, in exact arithmetic on naturals.
-/

namespace DomainModel

inductive Binary64
  /-- The number `mantissa * 2 ^ exponent`, or its negative. -/
  | finite (negative : Bool) (mantissa : Nat) (exponent : Int)
  | infinite (negative : Bool)
  | undefined
deriving Repr, DecidableEq

namespace Binary64

-- Powers mean the same under all imports.
attribute [local instance (high)] instPowNat

def minExponent : Int := -1074

def maxExponent : Int := 971

def precision : Nat := 53

def zero (negative : Bool) : Binary64 := finite negative 0 minExponent

/-- The integer nearest to `num / den`, of two the even one. -/
def roundDiv (num den : Nat) : Nat :=
  let q := num / den
  let r := num % den
  if 2 * r < den ∨ 2 * r = den ∧ q % 2 = 0 then q else q + 1

/-- The numerator and denominator of `num / (den * 2 ^ e)`. -/
def scaleDown (num den : Nat) (e : Int) : Nat × Nat :=
  if 0 ≤ e then (num, den * 2 ^ e.toNat) else (num * 2 ^ (-e).toNat, den)

def binaryOrder (num den : Nat) : Int :=
  let e : Int := (num.log2 : Int) - (den.log2 : Int)
  let (n, d) := scaleDown num den e
  if d ≤ n then e else e - 1

/-- The number nearest to the positive quotient `num / den`. -/
def ofRatio (negative : Bool) (num den : Nat) : Binary64 :=
  let e := max (binaryOrder num den - (precision - 1)) minExponent
  let (n, d) := scaleDown num den e
  let m := roundDiv n d
  let (m, e) := if m = 2 ^ precision then (2 ^ (precision - 1), e + 1) else (m, e)
  if maxExponent < e then infinite negative else finite negative m e

/-- The number nearest to `digits * 10 ^ power`. Decimals that are far outside the range are told by
their number of digits, so that no huge power is computed for them. -/
def ofDecimal (negative : Bool) (digits : Nat) (power : Int) : Binary64 :=
  if digits = 0 then zero negative
  else
    let order : Int := (Nat.toDigits 10 digits).length + power
    if 310 < order then infinite negative
    else if order < -330 then zero negative
    else ofRatio negative (digits * 10 ^ power.toNat) (10 ^ (-power).toNat)

end Binary64

end DomainModel
