import PillarLookup.Text.Utf8

/-!
# Text behind a byte order mark

A byte order mark names the encoding of what follows it and is no part of the
text. Without one the bytes are UTF-8. What cannot be decoded shows as the
replacement character, one for each broken run.
-/

namespace PillarLookup.Text

namespace Utf16

inductive Order where
  | bigEndian
  | littleEndian
deriving DecidableEq, Repr

def Order.unit (order : Order) (first second : UInt8) : Nat :=
  match order with
  | .bigEndian => first.toNat * 256 + second.toNat
  | .littleEndian => second.toNat * 256 + first.toNat

/-- The 16-bit units, and whether a single byte is left over. -/
def units (order : Order) : List UInt8 → List Nat × Bool
  | [] => ([], false)
  | [_] => ([], true)
  | first :: second :: rest =>
      let later := units order rest
      (order.unit first second :: later.1, later.2)

def isLeading (unit : Nat) : Bool :=
  0xD800 ≤ unit && unit ≤ 0xDBFF

def isTrailing (unit : Nat) : Bool :=
  0xDC00 ≤ unit && unit ≤ 0xDFFF

def joinPair (leading trailing : Nat) : Nat :=
  0x10000 + (leading - 0xD800) * 0x400 + (trailing - 0xDC00)

/-- Decode units; `open?` is a leading surrogate whose partner is awaited. -/
def charsFrom (oddByte : Bool) : Option Nat → List Nat → List Char
  | none, [] => if oddByte then [Utf8.replacement] else []
  | some _, [] => [Utf8.replacement]
  | none, unit :: rest =>
      if isLeading unit then charsFrom oddByte (some unit) rest
      else if isTrailing unit then Utf8.replacement :: charsFrom oddByte none rest
      else Char.ofNat unit :: charsFrom oddByte none rest
  | some leading, unit :: rest =>
      if isTrailing unit then
        Char.ofNat (joinPair leading unit) :: charsFrom oddByte none rest
      else if isLeading unit then Utf8.replacement :: charsFrom oddByte (some unit) rest
      else Utf8.replacement :: Char.ofNat unit :: charsFrom oddByte none rest

def decodeLenient (order : Order) (bytes : List UInt8) : String :=
  let cut := units order bytes
  String.ofList (charsFrom cut.2 none cut.1)

end Utf16

/-- The text of bytes that may open with a byte order mark. -/
def decodeMarked : List UInt8 → String
  | 0xEF :: 0xBB :: 0xBF :: rest => Utf8.decodeLenient rest
  | 0xFE :: 0xFF :: rest => Utf16.decodeLenient .bigEndian rest
  | 0xFF :: 0xFE :: rest => Utf16.decodeLenient .littleEndian rest
  | bytes => Utf8.decodeLenient bytes

end PillarLookup.Text
