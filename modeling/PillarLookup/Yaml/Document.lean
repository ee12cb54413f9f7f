import PillarLookup.Yaml.Scalar

/-!
# YAML documents

The block form of a value: an item behind a dash, a member behind its key, two
blanks of indentation for each level. Empty lists and objects stay on the line.
A framed document has a marker before it and a line end after it.
-/

namespace PillarLookup.Yaml

/-- The start of a line at a depth of nested blocks. -/
def newLine (depth : Nat) : List Char :=
  '\n' :: List.replicate (2 * depth) ' '

/-- Whether a value takes lines of its own. -/
def isBlock : Json → Bool
  | .arr items => !items.isEmpty
  | .obj members => !members.isEmpty
  | _ => false

/-- A key and what leads to its value; a block starts on a line of its own. -/
def keyChars (depth : Nat) (key : String) (value : Json) : List Char :=
  stringChars key.toList ++ ':' :: (if isBlock value then newLine (depth + 1) else [' '])

mutual

/-- A value whose further lines start at `depth`. -/
def nodeChars (depth : Nat) : Json → List Char
  | .null => ['~']
  | .bool true => ['t', 'r', 'u', 'e']
  | .bool false => ['f', 'a', 'l', 's', 'e']
  | .int value => Json.intChars value
  | .real value => numberLayout.chars value
  | .str value => stringChars value.toList
  | .arr items => itemsChars depth items
  | .obj members => membersChars depth members

def itemsChars (depth : Nat) : List Json → List Char
  | [] => ['[', ']']
  | item :: rest => '-' :: ' ' :: nodeChars (depth + 1) item ++ moreItemsChars depth rest

def moreItemsChars (depth : Nat) : List Json → List Char
  | [] => []
  | item :: rest =>
      newLine depth ++ '-' :: ' ' :: nodeChars (depth + 1) item ++ moreItemsChars depth rest

def membersChars (depth : Nat) : List (String × Json) → List Char
  | [] => ['\x7b', '\x7d']
  | (key, value) :: rest =>
      keyChars depth key value ++ nodeChars (depth + 1) value ++ moreMembersChars depth rest

def moreMembersChars (depth : Nat) : List (String × Json) → List Char
  | [] => []
  | (key, value) :: rest =>
      newLine depth ++ keyChars depth key value ++ nodeChars (depth + 1) value ++
        moreMembersChars depth rest

end

def document (value : Json) : List Char :=
  nodeChars 0 value

def marker : List Char := ['-', '-', '-']

/-- The document behind its marker, each with a line end. -/
def framed (value : Json) : List Char :=
  marker ++ '\n' :: document value ++ ['\n']

end PillarLookup.Yaml
