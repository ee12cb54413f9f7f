/-!
# Binary floating point of 64 bits

A number is a sign, a mantissa below `2 ^ 53` and a power of two. Arithmetic is
exact on natural numbers and rounded once, to the nearest number and to the even
mantissa when two are equally near. A result whose exponent exceeds
`greatestExponent` stands for an overflow.
-/

namespace PillarLookup

structure Binary64 where
  negative : Bool
  mantissa : Nat
  exponent : Int
deriving DecidableEq, Repr

namespace Binary64

/-- The exponent of the smallest positive number, and of zero. -/
def leastExponent : Int := -1074

def greatestExponent : Int := 971

/-- The least number of more than 53 binary digits. -/
def mantissaBound : Nat := 9007199254740992

/-- The least number of 53 binary digits. -/
def leastNormal : Nat := 4503599627370496

def zero (negative : Bool) : Binary64 :=
  ⟨negative, 0, leastExponent⟩

def isZero (number : Binary64) : Bool :=
  number.mantissa == 0

def isFinite (number : Binary64) : Bool :=
  number.exponent ≤ greatestExponent

/-- The quotient rounded to the nearest natural number, a half to the even one. -/
def roundHalfEven (numerator denominator : Nat) : Nat :=
  let quotient := numerator / denominator
  let twice := 2 * (numerator % denominator)
  if twice < denominator then quotient
  else if denominator < twice then quotient + 1
  else if quotient % 2 = 0 then quotient
  else quotient + 1

/-- The power of two that scales a positive quotient to 53 binary digits. -/
def scaleOf (numerator denominator : Nat) : Int :=
  let low : Int := (numerator.log2 : Int) - denominator.log2 - 53
  let tooWide :=
    mantissaBound * denominator * Nat.pow 2 low.toNat ≤ numerator * Nat.pow 2 (-low).toNat
  max leastExponent (if tooWide then low + 1 else low)

/-- The number nearest to a quotient. -/
def ofRatio (negative : Bool) (numerator denominator : Nat) : Binary64 :=
  if numerator = 0 then zero negative
  else
    let scale := scaleOf numerator denominator
    let mantissa :=
      roundHalfEven (numerator * Nat.pow 2 (-scale).toNat) (denominator * Nat.pow 2 scale.toNat)
    if mantissa = mantissaBound then ⟨negative, leastNormal, scale + 1⟩
    else ⟨negative, mantissa, scale⟩

def mul (first second : Binary64) : Binary64 :=
  let exponent := first.exponent + second.exponent
  ofRatio (first.negative != second.negative)
    (first.mantissa * second.mantissa * Nat.pow 2 exponent.toNat) (Nat.pow 2 (-exponent).toNat)

def div (first second : Binary64) : Binary64 :=
  let exponent := first.exponent - second.exponent
  ofRatio (first.negative != second.negative)
    (first.mantissa * Nat.pow 2 exponent.toNat) (second.mantissa * Nat.pow 2 (-exponent).toNat)

def powerOfTen (exponent : Nat) : Binary64 :=
  ofRatio false (Nat.pow 10 exponent) 1

/-- The greatest power of ten that is a finite number. -/
def widestStep : Nat := 308

/--
Scale by a power of ten in one rounded step, after steps of `10 ^ 308` down when
the exponent lies further below. `none` is an overflow.
-/
def scaleByTen (number : Binary64) (exponent : Int) : Option Binary64 :=
  if exponent.natAbs ≤ widestStep then
    let scaled :=
      if 0 ≤ exponent then mul number (powerOfTen exponent.toNat)
      else div number (powerOfTen (-exponent).toNat)
    if scaled.isFinite then some scaled else none
  else if number.isZero then some number
  else if 0 ≤ exponent then none
  else scaleByTen (div number (powerOfTen widestStep)) (exponent + widestStep)
termination_by exponent.natAbs
decreasing_by
  simp only [widestStep] at *
  omega

/-- The number read from a decimal significand and a power of ten. -/
def ofDecimal? (negative : Bool) (significand : Nat) (exponent : Int) : Option Binary64 :=
  (scaleByTen (ofRatio false significand 1) exponent).map fun number =>
    { number with negative := negative }

end Binary64

end PillarLookup
