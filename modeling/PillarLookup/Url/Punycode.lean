/-!
# Punycode

Text beyond ASCII, written in letters, digits and hyphens. The ASCII characters come
first, with a hyphen behind them if there are any. Then each number tells how far to
count to the next character: through all the places in the text so far, and from the
last place on to the next code point.
-/

namespace PillarLookup.Url.Punycode

def digit? (char : Char) : Option Nat :=
  let code := char.toNat
  if 97 ≤ code ∧ code ≤ 122 then some (code - 97)
  else if 65 ≤ code ∧ code ≤ 90 then some (code - 65)
  else if 48 ≤ code ∧ code ≤ 57 then some (code - 22)
  else none

/-- There are so many digits. -/
def base : Nat := 36

/-- A smaller digit ends a number. -/
def threshold (bias place : Nat) : Nat :=
  Nat.min 26 (Nat.max 1 (place - bias))

/-- The bias that suits numbers of a size. -/
def biasFor (size : Nat) : Nat :=
  if 455 < size then base + biasFor (size / 35) else base * size / (size + 38)
termination_by size

/-- The bias after a distance counted in a text of so many characters. -/
def adapt (distance count : Nat) (first : Bool) : Nat :=
  let size := if first then distance / 700 else distance / 2
  biasFor (size + size / count)

/-- The text so far, and the number that is being read. -/
structure Decoder where
  found : List Char
  code : Nat
  counter : Nat
  begun : Nat
  weight : Nat
  place : Nat
  bias : Nat

namespace Decoder

def start (found : List Char) : Decoder :=
  ⟨found, 0x80, 0, 0, 1, base, 72⟩

/-- Put in the character that a complete number leads to. -/
def insert? (decoder : Decoder) (counter : Nat) : Option Decoder :=
  let count := decoder.found.length + 1
  let code := decoder.code + counter / count
  let next := counter % count + 1
  if code < 0xD800 ∨ 0xDFFF < code ∧ code < 0x110000 then
    some
      { found := decoder.found.insertIdx (counter % count) (Char.ofNat code)
        code := code
        counter := next
        begun := next
        weight := 1
        place := base
        bias := adapt (counter - decoder.begun) count (decoder.begun = 0) }
  else none

def read? (decoder : Decoder) (char : Char) : Option Decoder :=
  (digit? char).bind fun digit =>
    let counter := decoder.counter + digit * decoder.weight
    let limit := threshold decoder.bias decoder.place
    if digit < limit then decoder.insert? counter
    else
      some
        { decoder with
          counter := counter
          weight := decoder.weight * (base - limit)
          place := decoder.place + base }

/-- The text, if no number is left unfinished. -/
def finish? (decoder : Decoder) : Option (List Char) :=
  if decoder.place = base then some decoder.found else none

end Decoder

/-- Cut at the last hyphen, which has to have something before it. -/
def cutBasic? (chars : List Char) : Option (List Char × List Char) :=
  match chars.reverse.dropWhile (· ≠ '-') with
  | [] => some ([], chars)
  | [_] => none
  | _ :: before => some (before.reverse, (chars.reverse.takeWhile (· ≠ '-')).reverse)

def decode? (chars : List Char) : Option (List Char) := do
  let (basic, digits) ← cutBasic? chars
  let decoder ← digits.foldlM Decoder.read? (Decoder.start basic)
  decoder.finish?

end PillarLookup.Url.Punycode
