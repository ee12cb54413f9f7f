import PillarLookup.Json.Printer

/-!
# YAML scalars

A string is written plain unless a reader could take it for something else: for
structure, for a number, a truth value or null, or for text with blanks around
it. Such a string stands between double quotes.
-/

namespace PillarLookup.Yaml

/-- Numbers are positional for exponents from -5 to 15; no other one shows a plus sign. -/
def numberLayout : Binary64.Layout :=
  ⟨-5, 16, false⟩

/-- The words that stand for a truth value or null. -/
def reservedWords : List String :=
  ["yes", "Yes", "YES", "no", "No", "NO", "true", "True", "TRUE", "false", "False", "FALSE",
    "on", "On", "ON", "off", "Off", "OFF", "null", "Null", "NULL", "~"]

/-- The characters that mean structure at the start of a scalar. -/
def indicators : List Char :=
  ['&', '*', '?', '|', '-', '<', '>', '=', '!', '%', '@', '.']

/-- The characters that mean structure anywhere. -/
def separators : List Char :=
  [':', '\x7b', '\x7d', '[', ']', ',', '#', '\x60', '"', '\'', '\\']

/-- Of the controls, the vertical tab, the form feed and the escape may stand in a plain scalar. -/
def isPlainControl (code : Nat) : Bool :=
  code = 0x07 || code = 0x08 || code = 0x0B || code = 0x0C || code = 0x1B

def breaksPlain (char : Char) : Bool :=
  separators.contains char || (char.toNat < 0x20 && !isPlainControl char.toNat)

def dropSign : List Char → List Char
  | [] => []
  | char :: rest => if char = '+' || char = '-' then rest else char :: rest

/-- Nothing, or an exponent mark, a sign perhaps, and digits. -/
def isExponent : List Char → Bool
  | [] => true
  | mark :: rest => (mark = 'e' || mark = 'E') && Text.isNumeral (dropSign rest)

/-- Digits on at least one side of a point, which may be missing, and perhaps an exponent. -/
def isMagnitude (chars : List Char) : Bool :=
  let whole := chars.takeWhile Text.isDigit
  match chars.dropWhile Text.isDigit with
  | '.' :: rest =>
      !(whole.isEmpty && (rest.takeWhile Text.isDigit).isEmpty) &&
        isExponent (rest.dropWhile Text.isDigit)
  | rest => !whole.isEmpty && isExponent rest

/-- A number, the infinities and what is no number included. -/
def isNumber (chars : List Char) : Bool :=
  let unsigned := dropSign chars
  ["inf", "infinity", "nan"].contains (String.ofList (unsigned.map Char.toLower)) ||
    isMagnitude unsigned

def needsQuotes (chars : List Char) : Bool :=
  match chars with
  | [] => true
  | first :: rest =>
      first = ' ' || (first :: rest).getLast? = some ' ' || indicators.contains first ||
        (first = '0' && rest.head? = some 'x') || chars.any breaksPlain ||
        reservedWords.contains (String.ofList chars) || isNumber chars

/-- As in JSON, and a delete shows its code too. -/
def escape (char : Char) : List Char :=
  if char = '\x7f' then ['\\', 'u', '0', '0', '7', 'f'] else Json.escape char

def stringChars (chars : List Char) : List Char :=
  if needsQuotes chars then '"' :: chars.flatMap escape ++ ['"'] else chars

end PillarLookup.Yaml
