import PillarLookup.Text.Digits
import PillarLookup.Text.Split

/-!
# Numeric addresses

Addresses of 32 bits are up to four numbers, of which the last one fills all the
bytes that remain; a number is decimal, octal behind a zero or hexadecimal behind
a zero and an x. Addresses of 128 bits are eight pieces of four hexadecimal
digits; one gap stands for the zeros that make up the eight, and the last two
pieces may be four decimal bytes.
-/

namespace PillarLookup.Url.Address

def baseDigit? (char : Char) : Option Nat :=
  let code := char.toNat
  if 48 ≤ code ∧ code ≤ 57 then some (code - 48)
  else if 97 ≤ code ∧ code ≤ 102 then some (code - 87)
  else if 65 ≤ code ∧ code ≤ 70 then some (code - 55)
  else none

/-- A digit of a base, which is at most sixteen. -/
def digitIn? (base : Nat) (char : Char) : Option Nat :=
  (baseDigit? char).filter fun value => value < base

/-- The number that digits of a base spell; no digits spell zero. -/
def ofDigits? (base : Nat) (chars : List Char) : Option Nat :=
  (chars.mapM (digitIn? base)).map fun values =>
    values.foldl (fun number value => number * base + value) 0

/-- A number in the notation of 32-bit addresses. -/
def number? : List Char → Option Nat
  | [] => none
  | '0' :: 'x' :: rest => ofDigits? 16 rest
  | '0' :: 'X' :: rest => ofDigits? 16 rest
  | ['0'] => some 0
  | '0' :: rest => ofDigits? 8 rest
  | chars => ofDigits? 10 chars

/-- The parts between dots, a last empty one aside. -/
def dottedParts (chars : List Char) : List (List Char) :=
  let parts := Text.splitAt (· = '.') chars
  if 1 < parts.length ∧ parts.getLast? = some [] then parts.dropLast else parts

/-- A name whose last part looks like a number has to be a numeric address. -/
def endsInNumber (chars : List Char) : Bool :=
  match (dottedParts chars).getLast? with
  | some last => Text.isNumeral last || (number? last).isSome
  | none => false

/-- Join bytes and the last number, which fills the rest of four bytes. -/
def join32? : List Nat → Option Nat
  | [] => none
  | numbers@(_ :: _) =>
      let bytes := numbers.dropLast
      let last := numbers.getLast?.getD 0
      if numbers.length ≤ 4 ∧ bytes.all (· ≤ 255) ∧ last < Nat.pow 256 (4 - bytes.length) then
        some (bytes.foldl (fun address byte => address * 256 + byte) 0 *
          Nat.pow 256 (4 - bytes.length) + last)
      else none

def parse32? (chars : List Char) : Option Nat :=
  ((dottedParts chars).mapM number?).bind join32?

def chars32 (address : Nat) : List Char :=
  Text.digits (address / 16777216 % 256) ++ '.' :: Text.digits (address / 65536 % 256) ++
    '.' :: Text.digits (address / 256 % 256) ++ '.' :: Text.digits (address % 256)

/-- A decimal byte without leading zeros. -/
def decimalByte? (chars : List Char) : Option Nat :=
  if Text.isNumeral chars ∧ (chars.head? ≠ some '0' ∨ chars.length = 1) ∧
      Text.ofDigits chars ≤ 255 then
    some (Text.ofDigits chars)
  else none

def piece? (chars : List Char) : Option Nat :=
  if chars.isEmpty ∨ 4 < chars.length then none else ofDigits? 16 chars

/-- Four decimal bytes, as two pieces. -/
def decimalPieces? (chars : List Char) : Option (List Nat) :=
  match (Text.splitAt (· = '.') chars).mapM decimalByte? with
  | some [first, second, third, fourth] => some [first * 256 + second, third * 256 + fourth]
  | _ => none

/-- The pieces of a list of parts; only the last part may be decimal, if `decimalTail`. -/
def pieces? (decimalTail : Bool) : List (List Char) → Option (List Nat)
  | [] => some []
  | [last] =>
      if decimalTail && last.contains '.' then decimalPieces? last
      else (piece? last).map fun piece => [piece]
  | part :: rest => do
      let piece ← piece? part
      let pieces ← pieces? decimalTail rest
      return piece :: pieces

/-- The pieces between colons; an empty text has none. -/
def sidePieces? (decimalTail : Bool) (chars : List Char) : Option (List Nat) :=
  if chars.isEmpty then some [] else pieces? decimalTail (Text.splitAt (· = ':') chars)

/-- Cut a text at its first pair of colons. -/
def cutAtGap : List Char → Option (List Char × List Char)
  | [] => none
  | [_] => none
  | first :: second :: rest =>
      if first = ':' ∧ second = ':' then some ([], rest)
      else (cutAtGap (second :: rest)).map fun sides => (first :: sides.1, sides.2)

def parse128? (chars : List Char) : Option (List Nat) :=
  match cutAtGap chars with
  | none => (pieces? true (Text.splitAt (· = ':') chars)).filter fun pieces => pieces.length = 8
  | some (before, after) => do
      let left ← sidePieces? false before
      let right ← sidePieces? true after
      if left.length + right.length ≤ 7 then
        some (left ++ List.replicate (8 - left.length - right.length) 0 ++ right)
      else none

/-- The number of zeros that a list starts with. -/
def leadingZeros (pieces : List Nat) : Nat :=
  (pieces.takeWhile (· = 0)).length

/-- The place and length of the first of the longest runs of zeros. -/
def longestZeros (pieces : List Nat) : Nat × Nat :=
  (List.range pieces.length).foldl
    (fun best start =>
      let run := leadingZeros (pieces.drop start)
      if best.2 < run then (start, run) else best)
    (0, 0)

def pieceChars (piece : Nat) : List Char :=
  Nat.toDigits 16 piece

def joinPieces (pieces : List Nat) : List Char :=
  [':'].intercalate (pieces.map pieceChars)

/-- A run of at least two zeros is written as a gap. -/
def chars128 (pieces : List Nat) : List Char :=
  let (start, run) := longestZeros pieces
  if run < 2 then joinPieces pieces
  else joinPieces (pieces.take start) ++ [':', ':'] ++ joinPieces (pieces.drop (start + run))

end PillarLookup.Url.Address
