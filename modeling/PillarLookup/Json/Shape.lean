import PillarLookup.Json.Skip

/-!
# Structures with one field, and names

The replies of the Salt API decode to structures with a single field. A structure
is an object, of which other keys are skipped, or a list of its fields. A name out
of a fixed list is a string, or an object whose only key is the name and holds
`null`.
-/

namespace PillarLookup.Json

/-- A structure with one field. -/
structure Shape (α : Type) where
  structName : String
  field : String
  read : Nat → Reader α
  /-- The value of a field that an object lacks. -/
  absent : α
  /-- Whether a list may lack it too. -/
  emptyListAllowed : Bool

/-- What is left after looking for a closing bracket. -/
def afterClosing (closing : Char) (text : List Char) : List Char :=
  match skipBlanks text with
  | [] => []
  | next :: rest => if next = closing then rest else next :: rest

/-- The end of a list all of whose fields were read. -/
def closeList (text : List Char) : Except Fault (List Char) :=
  match skipBlanks text with
  | [] => failNext .endInList []
  | next :: rest =>
      if next = ']' then .ok rest
      else if next = ',' then
        match skipBlanks rest with
        | [] => failNext .trailingCharacters []
        | first :: more =>
            if first = ']' then failNext .trailingComma (first :: more)
            else failNext .trailingCharacters (first :: more)
      else failNext .trailingCharacters (next :: rest)

/-- Read a structure written as a list, its opening bracket already consumed. -/
def Shape.readAsList {α : Type} (shape : Shape α) (levels : Nat) : Reader α := fun text =>
  match skipBlanks text with
  | [] => failNext .endInList []
  | first :: rest =>
      if first = ']' then
        if shape.emptyListAllowed then .ok (shape.absent, rest)
        else failAt (.missingElement shape.structName) rest
      else
        match shape.read levels (first :: rest) with
        | .error fault => .error fault
        | .ok (value, left) =>
            match closeList left with
            | .error fault => .error fault
            | .ok after => .ok (value, after)

/-- Read the value behind a key, and go on with the value of the field found so far. -/
def Shape.readField {α : Type} (shape : Shape α) (levels : Nat) (found : Option α)
    (text : List Char) : Except Fault (Option α × List Char) :=
  match readString text with
  | .error fault => .error fault
  | .ok (key, afterKey) =>
      if key = shape.field then
        if found.isSome then
          failAt (.duplicateField shape.field) (afterClosing '\x7d' afterKey)
        else
          match readColon afterKey with
          | .error fault => .error fault
          | .ok afterColon =>
              match shape.read levels afterColon with
              | .error fault => .error fault
              | .ok (value, rest) => .ok (some value, rest)
      else
        match readColon afterKey with
        | .error fault => .error fault
        | .ok afterColon =>
            match skipValue afterColon with
            | .error fault => .error fault
            | .ok rest => .ok (found, rest)

def Shape.readMoreFields {α : Type} (shape : Shape α) (levels : Nat) :
    Nat → Option α → Reader α
  | 0, _, text => failNext .endInObject text
  | bound + 1, found, text =>
      match nextMember text with
      | .error fault => .error fault
      | .ok (.close rest) => .ok (found.getD shape.absent, rest)
      | .ok (.key rest) =>
          match shape.readField levels found rest with
          | .error fault => .error fault
          | .ok (value, left) => shape.readMoreFields levels bound value left

/-- Read a structure written as an object, its opening brace already consumed. -/
def Shape.readAsObject {α : Type} (shape : Shape α) (levels : Nat) : Reader α := fun text =>
  match firstMember text with
  | .error fault => .error fault
  | .ok (.close rest) => .ok (shape.absent, rest)
  | .ok (.key rest) =>
      match shape.readField levels none rest with
      | .error fault => .error fault
      | .ok (value, left) => shape.readMoreFields levels left.length value left

def Shape.reader {α : Type} (shape : Shape α) (levels : Nat) : Reader α := fun text =>
  match skipBlanks text with
  | [] => failNext .endInValue []
  | first :: rest =>
      if first = '[' || first = '\x7b' then
        match levels with
        | 0 => failNext .tooDeep (first :: rest)
        | inner + 1 =>
            if first = '[' then shape.readAsList inner rest else shape.readAsObject inner rest
      else wrongType ("struct " ++ shape.structName) (first :: rest)

def Shape.decode {α : Type} (shape : Shape α) (text : String) : Except ReadError α :=
  decodeWith (shape.reader nestingLimit) text

/-- Read a string that is one of `known`, its opening quote already consumed. -/
def readName (known : List String) : Reader String := fun text =>
  match readString text with
  | .error fault => .error fault
  | .ok (name, left) =>
      if known.contains name then .ok (name, left) else failAt (.unknownName name known) left

/-- Read the only key of an object that stands for a name. -/
def readNameKey (known : List String) : Reader String := fun text =>
  match skipBlanks text with
  | [] => failNext .endInValue []
  | first :: rest =>
      if first = '"' then readName known rest
      else if first = '\x7d' then failNext .expectedValue (first :: rest)
      else failNext .keyNotString (first :: rest)

/-- Read `null`, the content of a name written as an object. -/
def readNothing (text : List Char) : Except Fault (List Char) :=
  match skipBlanks text with
  | [] => failNext .endInValue []
  | first :: rest =>
      if first = 'n' then readWord ['u', 'l', 'l'] rest else wrongType "unit" (first :: rest)

/-- Read a name in either form. -/
def readChoice (known : List String) : Reader String := fun text =>
  match skipBlanks text with
  | [] => failNext .endInValue []
  | first :: rest =>
      if first = '"' then readName known rest
      else if first = '\x7b' then
        match readNameKey known rest with
        | .error fault => .error fault
        | .ok (name, afterName) =>
            match readColon afterName with
            | .error fault => .error fault
            | .ok afterColon =>
                match readNothing afterColon with
                | .error fault => .error fault
                | .ok left =>
                    match skipBlanks left with
                    | [] => failAt .endInObject []
                    | next :: after =>
                        if next = '\x7d' then .ok (name, after)
                        else failAt .expectedValue (next :: after)
      else failNext .expectedValue (first :: rest)

def decodeChoice (known : List String) (text : String) : Except ReadError String :=
  decodeWith (readChoice known) text

end PillarLookup.Json
