import PillarLookup.Text.Hidden
import PillarLookup.Text.Utf8

/-!
# Quoted text

The form in which a diagnostic shows a string: between double quotes, with a
backslash before quotes and backslashes, short escapes for the usual controls,
and the code point of every character that has no glyph of its own. Bytes that
are not UTF-8 appear as two hexadecimal digits each.
-/

namespace PillarLookup.Text

def escapeChar (char : Char) : List Char :=
  if char = '\x00' then ['\\', '0']
  else if char = '\t' then ['\\', 't']
  else if char = '\r' then ['\\', 'r']
  else if char = '\n' then ['\\', 'n']
  else if char = '"' || char = '\\' then ['\\', char]
  else if isHidden char then ['\\', 'u', '{'] ++ Nat.toDigits 16 char.toNat ++ ['}']
  else [char]

def quote (text : String) : String :=
  String.ofList ('"' :: text.toList.flatMap escapeChar ++ ['"'])

def upperHexDigit (value : Nat) : Char :=
  if value < 10 then Char.ofNat (48 + value) else Char.ofNat (55 + value)

def escapeByte (byte : UInt8) : List Char :=
  ['\\', 'x', upperHexDigit (byte.toNat / 16), upperHexDigit (byte.toNat % 16)]

def escapePiece : Utf8.Piece → List Char
  | .char value => escapeChar value
  | .broken bytes => bytes.flatMap escapeByte

/-- Quote bytes that may or may not be text. -/
def quoteBytes (bytes : List UInt8) : String :=
  String.ofList ('"' :: (Utf8.pieces bytes).flatMap escapePiece ++ ['"'])

end PillarLookup.Text
