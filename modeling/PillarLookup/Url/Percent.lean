import PillarLookup.Text.Quoted

/-!
# Percent encoding

Each part of an address has a set of characters that may not stand in it as they
are. Controls and everything beyond ASCII belong to all of the sets. A percent
sign belongs to none, so that what is encoded already stays as it is.
-/

namespace PillarLookup.Url.Percent

def isControl (char : Char) : Bool :=
  char.toNat < 0x20 || 0x7F ≤ char.toNat

def inFragment (char : Char) : Bool :=
  isControl char || [' ', '"', '<', '>', '\x60'].contains char

def inPath (char : Char) : Bool :=
  inFragment char || ['#', '?', '\x7b', '\x7d'].contains char

def inUserInfo (char : Char) : Bool :=
  inPath char || ['/', ':', ';', '=', '@', '[', '\\', ']', '^', '|'].contains char

def inQuery (char : Char) : Bool :=
  isControl char || [' ', '"', '#', '<', '>'].contains char

/-- The query of a special scheme excludes the apostrophe too. -/
def inSpecialQuery (char : Char) : Bool :=
  inQuery char || char = '\''

def encodeByte (byte : UInt8) : List Char :=
  ['%', Text.upperHexDigit (byte.toNat / 16), Text.upperHexDigit (byte.toNat % 16)]

def encodeChar (excluded : Char → Bool) (char : Char) : List Char :=
  if excluded char then (String.utf8EncodeChar char).flatMap encodeByte else [char]

def encode (excluded : Char → Bool) (chars : List Char) : List Char :=
  chars.flatMap (encodeChar excluded)

def hexValue? (byte : UInt8) : Option UInt8 :=
  if 48 ≤ byte ∧ byte ≤ 57 then some (byte - 48)
  else if 97 ≤ byte ∧ byte ≤ 102 then some (byte - 87)
  else if 65 ≤ byte ∧ byte ≤ 70 then some (byte - 55)
  else none

/-- A percent sign without two digits behind it stays as it is. -/
def decode : List UInt8 → List UInt8
  | [] => []
  | [only] => [only]
  | [first, second] => [first, second]
  | first :: second :: third :: rest =>
      if first = 37 then
        match hexValue? second, hexValue? third with
        | some high, some low => (high * 16 + low) :: decode rest
        | _, _ => first :: decode (second :: third :: rest)
      else first :: decode (second :: third :: rest)

/-- The text that an encoded part spells, if it is UTF-8. -/
def decodeText? (text : String) : Option String :=
  Text.Utf8.decode? (decode (Text.Utf8.encode text))

end PillarLookup.Url.Percent
