import PillarLookup.Json.Value

/-!
# Compact JSON text
-/

namespace PillarLookup.Json

/-- Numbers are positional for exponents from -5 to 15 and show the sign of others. -/
def numberLayout : Binary64.Layout :=
  ⟨-5, 16, true⟩

def lowerHexDigit (value : Nat) : Char :=
  if value < 10 then Char.ofNat (48 + value) else Char.ofNat (87 + value)

def escape (char : Char) : List Char :=
  if char = '"' then ['\\', '"']
  else if char = '\\' then ['\\', '\\']
  else if char = '\x08' then ['\\', 'b']
  else if char = '\x0c' then ['\\', 'f']
  else if char = '\n' then ['\\', 'n']
  else if char = '\r' then ['\\', 'r']
  else if char = '\t' then ['\\', 't']
  else if char.toNat < 0x20 then
    ['\\', 'u', '0', '0', lowerHexDigit (char.toNat / 16), lowerHexDigit (char.toNat % 16)]
  else [char]

def stringChars (text : String) : List Char :=
  '"' :: text.toList.flatMap escape ++ ['"']

def intChars (value : Int) : List Char :=
  if value < 0 then '-' :: Text.digits value.natAbs else Text.digits value.natAbs

mutual

def chars : Json → List Char
  | .null => ['n', 'u', 'l', 'l']
  | .bool true => ['t', 'r', 'u', 'e']
  | .bool false => ['f', 'a', 'l', 's', 'e']
  | .int value => intChars value
  | .real value => numberLayout.chars value
  | .str value => stringChars value
  | .arr items => '[' :: itemsChars items
  | .obj members => '{' :: membersChars members

/-- The items of a list and its closing bracket. -/
def itemsChars : List Json → List Char
  | [] => [']']
  | item :: rest => chars item ++ moreItemsChars rest

def moreItemsChars : List Json → List Char
  | [] => [']']
  | item :: rest => ',' :: (chars item ++ moreItemsChars rest)

/-- The members of an object and its closing brace. -/
def membersChars : List (String × Json) → List Char
  | [] => ['}']
  | (key, value) :: rest => stringChars key ++ ':' :: (chars value ++ moreMembersChars rest)

def moreMembersChars : List (String × Json) → List Char
  | [] => ['}']
  | (key, value) :: rest =>
      ',' :: (stringChars key ++ ':' :: (chars value ++ moreMembersChars rest))

end

def text (value : Json) : String :=
  String.ofList value.chars

end PillarLookup.Json
