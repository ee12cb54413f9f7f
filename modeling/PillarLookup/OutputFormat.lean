import PillarLookup.Json.Shape
import PillarLookup.Text.Blank
import PillarLookup.Yaml.Document

/-!
# Output formats

How a value is shown: raw, which is a string as it is and anything else as JSON,
compact JSON, or a YAML document without its frame.
-/

namespace PillarLookup

inductive OutputFormat where
  | raw
  | json
  | yaml
deriving DecidableEq, Repr

/-- A text that names no format. -/
structure UnknownFormat where
  name : String
deriving DecidableEq, Repr

namespace OutputFormat

def all : List OutputFormat :=
  [.raw, .json, .yaml]

def name : OutputFormat → String
  | .raw => "raw"
  | .json => "json"
  | .yaml => "yaml"

abbrev default : OutputFormat := .raw

def names : List String :=
  all.map name

def ofName? (text : String) : Option OutputFormat :=
  all.find? fun format => format.name = text

theorem ofName?_name (format : OutputFormat) : ofName? format.name = some format := by
  cases format <;> decide

theorem name_of_ofName? {text : String} {format : OutputFormat}
    (found : ofName? text = some format) : format.name = text := by
  simpa using List.find?_some found

def parse (text : String) : Except UnknownFormat OutputFormat :=
  match ofName? text with
  | some format => .ok format
  | none => .error ⟨text⟩

def dropMarker : List Char → List Char
  | '-' :: '-' :: '-' :: rest => rest
  | chars => chars

/-- Take the frame off a document: the marker, line ends and spaces before, blanks after. -/
def unframe (chars : List Char) : List Char :=
  Text.dropEndWhile Text.isBlank
    ((dropMarker chars).dropWhile fun char => char = ' ' || char = '\n')

def render : OutputFormat → Json → String
  | .raw, .str value => value
  | .raw, value => value.text
  | .json, value => value.text
  | .yaml, value => String.ofList (unframe (Yaml.framed value))

end OutputFormat

def UnknownFormat.message (error : UnknownFormat) : String :=
  (Json.Cause.unknownName error.name OutputFormat.names).describe

end PillarLookup
