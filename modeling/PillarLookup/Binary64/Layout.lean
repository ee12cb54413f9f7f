import PillarLookup.Binary64.Shortest

/-!
# Layout of decimals

How a shortest decimal is written: positionally, with at least one digit on each
side of the point, while the exponent of the leading digit is moderate, and with
an exponent otherwise.
-/

namespace PillarLookup.Binary64

/-- The decisions of an output format. -/
structure Layout where
  /-- The least exponent of the leading digit that is written positionally. -/
  plainFrom : Int
  /-- The least larger exponent that is not. -/
  plainBelow : Int
  /-- Whether a positive exponent carries a plus sign. -/
  plusSign : Bool
deriving Repr

def zeros (count : Nat) : List Char :=
  List.replicate count '0'

/-- Positional digits; the point stands after `point` of them, or before leading zeros. -/
def positional (digits : List Char) (point : Int) : List Char :=
  if point ≤ 0 then '0' :: '.' :: zeros (-point).toNat ++ digits
  else
    let whole := point.toNat
    if digits.length ≤ whole then digits ++ zeros (whole - digits.length) ++ ['.', '0']
    else digits.take whole ++ '.' :: digits.drop whole

def Layout.exponentChars (layout : Layout) (exponent : Int) : List Char :=
  if exponent < 0 then '-' :: Text.digits exponent.natAbs
  else if layout.plusSign then '+' :: Text.digits exponent.natAbs
  else Text.digits exponent.natAbs

def scientific (layout : Layout) (digits : List Char) (exponent : Int) : List Char :=
  let mantissa := match digits with
    | first :: second :: rest => first :: '.' :: second :: rest
    | short => short
  mantissa ++ 'e' :: layout.exponentChars exponent

def Layout.decimalChars (layout : Layout) (decimal : Decimal) : List Char :=
  if decimal.digits = 0 then ['0', '.', '0']
  else
    let digits := Text.digits decimal.digits
    let point := decimal.exponent + digits.length
    if layout.plainFrom ≤ point - 1 ∧ point - 1 < layout.plainBelow then positional digits point
    else scientific layout digits (point - 1)

def Layout.chars (layout : Layout) (number : Binary64) : List Char :=
  let magnitude := layout.decimalChars number.shortest
  if number.negative then '-' :: magnitude else magnitude

end PillarLookup.Binary64
