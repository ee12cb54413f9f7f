import PillarLookup.Binary64.Basic
import PillarLookup.Text.Digits

/-!
# Shortest decimals

The decimal with the fewest digits that rounds to a given number, and among
those the nearest one. The grids of one, two, … seventeen digits are tried in
turn: a grid has a decimal in the rounding interval only if one of the two grid
points around the number lies in it.
-/

namespace PillarLookup.Binary64

/-- The value `digits * 10 ^ exponent`. -/
structure Decimal where
  digits : Nat
  exponent : Int
deriving DecidableEq, Repr

/-- Compare `digits * 10 ^ exponent` with `units * 2 ^ power`. -/
def Decimal.compareBinary (decimal : Decimal) (units : Nat) (power : Int) : Ordering :=
  compare (decimal.digits * Nat.pow 10 decimal.exponent.toNat * Nat.pow 2 (-power).toNat)
    (units * Nat.pow 2 power.toNat * Nat.pow 10 (-decimal.exponent).toNat)

/-- Below a power of two the neighbour is half as far away as above it. -/
def lowerGap (number : Binary64) : Nat :=
  if number.mantissa = leastNormal ∧ number.exponent ≠ leastExponent then 1 else 2

/-- Whether a decimal rounds to `number`, its sign aside. -/
def readsBack (number : Binary64) (decimal : Decimal) : Bool :=
  let low := decimal.compareBinary (4 * number.mantissa - lowerGap number) (number.exponent - 2)
  let high := decimal.compareBinary (4 * number.mantissa + 2) (number.exponent - 2)
  let endsIncluded := number.mantissa % 2 == 0
  (low == .gt || (endsIncluded && low == .eq)) && (high == .lt || (endsIncluded && high == .eq))

/-- The exponent of the leading decimal digit. -/
def leadingExponent (number : Binary64) : Int :=
  let guess := ((number.mantissa.log2 : Int) + number.exponent) * 30103 / 100000
  let reaches (exponent : Int) : Bool :=
    (Decimal.compareBinary ⟨1, exponent⟩ number.mantissa number.exponent) != .gt
  if reaches (guess + 1) then guess + 1
  else if reaches guess then guess
  else guess - 1

/-- The nearer of the two points of a grid around `number` that rounds to it. -/
def onGrid? (number : Binary64) (exponent : Int) : Option Decimal :=
  let numerator := number.mantissa * Nat.pow 2 number.exponent.toNat * Nat.pow 10 (-exponent).toNat
  let denominator := Nat.pow 2 (-number.exponent).toNat * Nat.pow 10 exponent.toNat
  let below : Decimal := ⟨numerator / denominator, exponent⟩
  let above : Decimal := ⟨numerator / denominator + 1, exponent⟩
  match readsBack number below, readsBack number above with
  | true, true => some ⟨roundHalfEven numerator denominator, exponent⟩
  | true, false => some below
  | false, true => some above
  | false, false => none

def dropZeros (digits : Nat) (exponent : Int) : Decimal :=
  if digits = 0 then ⟨0, 0⟩
  else if digits % 10 = 0 then dropZeros (digits / 10) (exponent + 1)
  else ⟨digits, exponent⟩
termination_by digits

/-- The most digits that two neighbouring numbers can need. -/
def mostDigits : Nat := 17

def shortest (number : Binary64) : Decimal :=
  if number.isZero then ⟨0, 0⟩
  else
    let leading := number.leadingExponent
    let found := (List.range mostDigits).findSome? fun count : Nat =>
      number.onGrid? (leading - (count : Int))
    let exact : Decimal :=
      ⟨number.mantissa * Nat.pow 2 number.exponent.toNat *
          Nat.pow 5 (-number.exponent).toNat,
        min number.exponent 0⟩
    let chosen := found.getD exact
    dropZeros chosen.digits chosen.exponent

end PillarLookup.Binary64
