import PillarLookup.Json.Lexeme

/-!
# Reading JSON

Lists, objects and values. A reader of nested values takes the number of levels
of lists and objects that may still be opened; `nestingLimit` levels are allowed
in all. The entries of an object are collected with `Members.insert`, so that the
last value of a repeated key is in force.
-/

namespace PillarLookup.Json

def nestingLimit : Nat := 127

/-- The fault of a value of another type than expected; a scalar is read through first. -/
def wrongType {α : Type} (expected : String) (text : List Char) : Except Fault α :=
  let afterWord (found : Found) (result : Except Fault (List Char)) : Except Fault α :=
    match result with
    | .error fault => .error fault
    | .ok rest => failAt (.wrongType found expected) rest
  let afterNumber (result : Except Fault (Numeral × List Char)) : Except Fault α :=
    match result with
    | .error fault => .error fault
    | .ok (.int value, rest) => failAt (.wrongType (.int value) expected) rest
    | .ok (.real value, rest) => failAt (.wrongType (.real value) expected) rest
  match text with
  | [] => failNext .expectedValue []
  | first :: rest =>
      if first = 'n' then afterWord .null (readWord ['u', 'l', 'l'] rest)
      else if first = 't' then afterWord (.bool true) (readWord ['r', 'u', 'e'] rest)
      else if first = 'f' then afterWord (.bool false) (readWord ['a', 'l', 's', 'e'] rest)
      else if first = '-' then afterNumber (readNumber true rest)
      else if Text.isDigit first then afterNumber (readNumber false (first :: rest))
      else if first = '"' then
        match readString rest with
        | .error fault => .error fault
        | .ok (value, more) => failAt (.wrongType (.str value) expected) more
      else if first = '[' then failAt (.wrongType .sequence expected) (first :: rest)
      else if first = '\x7b' then failAt (.wrongType .map expected) (first :: rest)
      else failNext .expectedValue (first :: rest)

/--
Read items until the closing bracket, the opening one and `done` being consumed.
Every item takes at least one character, so the length of the text bounds their number.
-/
def readMoreItems {α : Type} (item : Reader α) : Nat → List α → Reader (List α)
  | 0, _, text => failNext .endInList text
  | bound + 1, done, text =>
      match skipBlanks text with
      | [] => failNext .endInList []
      | next :: rest =>
          if next = ']' then .ok (done.reverse, rest)
          else if next = ',' then
            match skipBlanks rest with
            | [] => failNext .endInValue []
            | first :: more =>
                if first = ']' then failNext .trailingComma (first :: more)
                else
                  match item (first :: more) with
                  | .error fault => .error fault
                  | .ok (value, left) => readMoreItems item bound (value :: done) left
          else failNext .expectedListCommaOrEnd (next :: rest)

/-- Read the items of a list, its opening bracket already consumed. -/
def readItems {α : Type} (item : Reader α) : Reader (List α) := fun text =>
  match skipBlanks text with
  | [] => failNext .endInList []
  | first :: rest =>
      if first = ']' then .ok ([], rest)
      else
        match item (first :: rest) with
        | .error fault => .error fault
        | .ok (value, left) => readMoreItems item left.length [value] left

/-- Read the colon between a key and its value. -/
def readColon (text : List Char) : Except Fault (List Char) :=
  match skipBlanks text with
  | [] => failNext .endInObject []
  | next :: rest => if next = ':' then .ok rest else failNext .expectedColon (next :: rest)

/-- Read a key, its opening quote already consumed, a colon and a value. -/
def readMember {α : Type} (value : Reader α) : Reader (String × α) := fun text =>
  match readString text with
  | .error fault => .error fault
  | .ok (key, afterKey) =>
      match readColon afterKey with
      | .error fault => .error fault
      | .ok afterColon =>
          match value afterColon with
          | .error fault => .error fault
          | .ok (read, rest) => .ok ((key, read), rest)

/-- What stands where a further member may: its key, or the closing brace. -/
inductive MemberStart where
  | key (rest : List Char)
  | close (rest : List Char)
deriving DecidableEq, Repr

def firstMember (text : List Char) : Except Fault MemberStart :=
  match skipBlanks text with
  | [] => failNext .endInObject []
  | next :: rest =>
      if next = '\x7d' then .ok (.close rest)
      else if next = '"' then .ok (.key rest)
      else failNext .keyNotString (next :: rest)

def nextMember (text : List Char) : Except Fault MemberStart :=
  match skipBlanks text with
  | [] => failNext .endInObject []
  | next :: rest =>
      if next = '\x7d' then .ok (.close rest)
      else if next = ',' then
        match skipBlanks rest with
        | [] => failNext .endInValue []
        | first :: more =>
            if first = '"' then .ok (.key more)
            else if first = '\x7d' then failNext .trailingComma (first :: more)
            else failNext .keyNotString (first :: more)
      else failNext .expectedObjectCommaOrEnd (next :: rest)

def readMoreMembers {α : Type} (value : Reader α) : Nat → Members α → Reader (Members α)
  | 0, _, text => failNext .endInObject text
  | bound + 1, done, text =>
      match nextMember text with
      | .error fault => .error fault
      | .ok (.close rest) => .ok (done, rest)
      | .ok (.key rest) =>
          match readMember value rest with
          | .error fault => .error fault
          | .ok (entry, left) =>
              readMoreMembers value bound (done.insert entry.1 entry.2) left

/-- Read the members of an object, its opening brace already consumed. -/
def readMembers {α : Type} (value : Reader α) : Reader (Members α) := fun text =>
  match firstMember text with
  | .error fault => .error fault
  | .ok (.close rest) => .ok ([], rest)
  | .ok (.key rest) =>
      match readMember value rest with
      | .error fault => .error fault
      | .ok (entry, left) =>
          readMoreMembers value left.length (Members.insert entry.1 entry.2 []) left

def afterWord (value : Json) (result : Except Fault (List Char)) :
    Except Fault (Json × List Char) :=
  match result with
  | .error fault => .error fault
  | .ok rest => .ok (value, rest)

def afterNumber (result : Except Fault (Numeral × List Char)) :
    Except Fault (Json × List Char) :=
  match result with
  | .error fault => .error fault
  | .ok (.int value, rest) => .ok (.int value, rest)
  | .ok (.real value, rest) => .ok (.real value, rest)

/-- Read a value that opens a list or an object. -/
def readNested (levels : Option (Reader Json)) (first : Char) (rest : List Char) :
    Except Fault (Json × List Char) :=
  match levels with
  | none => failNext .tooDeep (first :: rest)
  | some inner =>
      if first = '[' then
        match readItems inner rest with
        | .error fault => .error fault
        | .ok (items, left) => .ok (.arr items, left)
      else
        match readMembers inner rest with
        | .error fault => .error fault
        | .ok (members, left) => .ok (.obj members, left)

/-- Read a value whose lists and objects are read by `inner`. -/
def readValueWith (inner : Option (Reader Json)) : Reader Json := fun text =>
  match skipBlanks text with
  | [] => failNext .endInValue []
  | first :: rest =>
      if first = 'n' then afterWord .null (readWord ['u', 'l', 'l'] rest)
      else if first = 't' then afterWord (.bool true) (readWord ['r', 'u', 'e'] rest)
      else if first = 'f' then afterWord (.bool false) (readWord ['a', 'l', 's', 'e'] rest)
      else if first = '-' then afterNumber (readNumber true rest)
      else if Text.isDigit first then afterNumber (readNumber false (first :: rest))
      else if first = '"' then
        match readString rest with
        | .error fault => .error fault
        | .ok (value, left) => .ok (.str value, left)
      else if first = '[' || first = '\x7b' then readNested inner first rest
      else failNext .expectedValue (first :: rest)

/-- Read a value with at most `levels` levels of lists and objects. -/
def readValue : Nat → Reader Json
  | 0 => readValueWith none
  | levels + 1 => readValueWith (some (readValue levels))

/-- Read an object whose values are read by `value`. -/
def readMap {α : Type} (value : Nat → Reader α) (levels : Nat) : Reader (Members α) :=
  fun text =>
    match skipBlanks text with
    | [] => failNext .endInValue []
    | first :: rest =>
        if first = '\x7b' then
          match levels with
          | 0 => failNext .tooDeep (first :: rest)
          | inner + 1 => readMembers (value inner) rest
        else wrongType "a map" (first :: rest)

/-- Read a list whose items are read by `item`. -/
def readList {α : Type} (item : Nat → Reader α) (levels : Nat) : Reader (List α) :=
  fun text =>
    match skipBlanks text with
    | [] => failNext .endInValue []
    | first :: rest =>
        if first = '[' then
          match levels with
          | 0 => failNext .tooDeep (first :: rest)
          | inner + 1 => readItems (item inner) rest
        else wrongType "a sequence" (first :: rest)

/-- A string, or `null` for none. -/
def readOptionalString : Reader (Option String) := fun text =>
  match skipBlanks text with
  | [] => failNext .endInValue []
  | first :: rest =>
      if first = 'n' then
        match readWord ['u', 'l', 'l'] rest with
        | .error fault => .error fault
        | .ok left => .ok (none, left)
      else if first = '"' then
        match readString rest with
        | .error fault => .error fault
        | .ok (value, left) => .ok (some value, left)
      else wrongType "a string" (first :: rest)

/-- Read a whole text; only blanks may follow. -/
def readWhole {α : Type} (reader : Reader α) (text : List Char) : Except Fault α :=
  match reader text with
  | .error fault => .error fault
  | .ok (value, rest) =>
      match skipBlanks rest with
      | [] => .ok value
      | next :: more => failNext .trailingCharacters (next :: more)

/-- Decode a text, locating a fault in it. -/
def decodeWith {α : Type} (reader : Reader α) (text : String) : Except ReadError α :=
  match readWhole reader text.toList with
  | .error fault => .error (fault.locate text.toList)
  | .ok value => .ok value

def decode (text : String) : Except ReadError Json :=
  decodeWith (readValue nestingLimit) text

/-- Decode an object with values of any kind. -/
def decodeMap (text : String) : Except ReadError (Members Json) :=
  decodeWith (readMap readValue nestingLimit) text

end PillarLookup.Json
