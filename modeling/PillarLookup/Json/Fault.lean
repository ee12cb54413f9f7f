import PillarLookup.Json.Printer
import PillarLookup.Text.Quoted
import PillarLookup.Text.Utf8

/-!
# Faults of a JSON text

Why a text was refused, and where: the line and the count of bytes in it up to
the place the reader had reached.
-/

namespace PillarLookup.Json

/-- What stood where another kind of value was expected. -/
inductive Found where
  | null
  | bool (value : Bool)
  | int (value : Int)
  | real (value : Binary64)
  | str (value : String)
  | sequence
  | map
deriving DecidableEq, Repr

inductive Cause where
  | endInValue
  | endInList
  | endInObject
  | endInString
  | expectedValue
  | expectedWord
  | expectedColon
  | expectedListCommaOrEnd
  | expectedObjectCommaOrEnd
  | keyNotString
  | trailingComma
  | trailingCharacters
  | invalidNumber
  | numberOutOfRange
  | invalidEscape
  | controlCharacter
  | loneSurrogate
  | unfinishedSurrogatePair
  | tooDeep
  | wrongType (found : Found) (expected : String)
  | duplicateField (name : String)
  | missingElement (structName : String)
  | unknownName (name : String) (known : List String)
deriving DecidableEq, Repr

/-- A refusal, `past` bytes beyond the point where `rest` is left to read. -/
structure Fault where
  cause : Cause
  rest : List Char
  past : Nat
deriving DecidableEq, Repr

structure ReadError where
  cause : Cause
  line : Nat
  column : Nat
deriving DecidableEq, Repr

def Found.describe : Found → String
  | .null => "null"
  | .bool value => "boolean `" ++ (if value then "true" else "false") ++ "`"
  | .int value => "integer `" ++ toString value ++ "`"
  | .real value => "floating point `" ++ String.ofList (numberLayout.chars value) ++ "`"
  | .str value => "string " ++ Text.quote value
  | .sequence => "sequence"
  | .map => "map"

/-- Names between backticks, as alternatives. -/
def alternatives (names : List String) : String :=
  let quoted := names.map fun name => "`" ++ name ++ "`"
  match quoted with
  | [] => ""
  | [only] => only
  | [first, second] => first ++ " or " ++ second
  | many => "one of " ++ String.intercalate ", " many

def Cause.describe : Cause → String
  | .endInValue => "EOF while parsing a value"
  | .endInList => "EOF while parsing a list"
  | .endInObject => "EOF while parsing an object"
  | .endInString => "EOF while parsing a string"
  | .expectedValue => "expected value"
  | .expectedWord => "expected ident"
  | .expectedColon => "expected `:`"
  | .expectedListCommaOrEnd => "expected `,` or `]`"
  | .expectedObjectCommaOrEnd => "expected `,` or `\x7d`"
  | .keyNotString => "key must be a string"
  | .trailingComma => "trailing comma"
  | .trailingCharacters => "trailing characters"
  | .invalidNumber => "invalid number"
  | .numberOutOfRange => "number out of range"
  | .invalidEscape => "invalid escape"
  | .controlCharacter => "control character (\\u0000-\\u001F) found while parsing a string"
  | .loneSurrogate => "lone leading surrogate in hex escape"
  | .unfinishedSurrogatePair => "unexpected end of hex escape"
  | .tooDeep => "recursion limit exceeded"
  | .wrongType found expected => "invalid type: " ++ found.describe ++ ", expected " ++ expected
  | .duplicateField name => "duplicate field `" ++ name ++ "`"
  | .missingElement structName =>
      "invalid length 0, expected struct " ++ structName ++ " with 1 element"
  | .unknownName name known =>
      "unknown variant `" ++ name ++ "`, expected " ++ alternatives known

/-- The line, from one, and the column, from zero, after a sequence of bytes. -/
def position (bytes : List UInt8) : Nat × Nat :=
  bytes.foldl (fun place byte => if byte = 10 then (place.1 + 1, 0) else (place.1, place.2 + 1))
    (1, 0)

/-- Locate a fault in the text that it arose in; no place lies beyond the end. -/
def Fault.locate (fault : Fault) (text : List Char) : ReadError :=
  let consumed := text.take (text.length - fault.rest.length)
  let next := (fault.rest.flatMap String.utf8EncodeChar).take fault.past
  let place := position (consumed.flatMap String.utf8EncodeChar ++ next)
  ⟨fault.cause, place.1, place.2⟩

def ReadError.message (error : ReadError) : String :=
  error.cause.describe ++ " at line " ++ toString error.line ++ " column " ++ toString error.column

end PillarLookup.Json
