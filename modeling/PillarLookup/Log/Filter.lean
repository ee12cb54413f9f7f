import PillarLookup.Log
import PillarLookup.Text.Blank
import PillarLookup.Text.Split

/-!
# Log filters

A filter admits entries by level. Each directive sets the level for the parts of
the program whose names begin with its own; the longest name decides, and of
equal names the last directive. A filter without directives admits errors only.
A specification may end in a regular expression that admitted entries have to match.
What these mean is not part of this library but a parameter of reading them.
-/

namespace PillarLookup

/-- The least severe level that is admitted; `none` admits nothing. -/
abbrev LogThreshold := Option LogLevel

namespace LogThreshold

def admits (threshold : LogThreshold) (level : LogLevel) : Bool :=
  match threshold with
  | some limit => level.rank ≤ limit.rank
  | none => false

def upper (text : List Char) : String :=
  String.ofList (text.map Char.toUpper)

/-- A level or `off`, in letters of any case. -/
def ofChars? (text : List Char) : Option LogThreshold :=
  if upper text = "OFF" then some none
  else (LogLevel.all.find? fun level => level.name = upper text).map some

end LogThreshold

/-- `scope` begins the names of the parts of the program that the directive is for. -/
structure LogDirective where
  scope : List Char
  threshold : LogThreshold
deriving DecidableEq, Repr

def LogDirective.covers (directive : LogDirective) (target : String) : Bool :=
  directive.scope.isPrefixOf target.toList

/-- The language of regular expressions: what one matches, or what is wrong with it. -/
structure LogPatterns where
  compile : List Char → Except String (String → Bool)

/-- `matchesText` has to hold of the text of an admitted entry. -/
structure LogFilter where
  directives : List LogDirective
  matchesText : String → Bool

namespace LogFilter

/-- The directive that decides on a part of the program. -/
def deciding? (directives : List LogDirective) (target : String) : Option LogDirective :=
  directives.foldl
    (fun best directive =>
      if !directive.covers target then best
      else
        match best with
        | some other =>
            if directive.scope.length < other.scope.length then best else some directive
        | none => some directive)
    none

def threshold (filter : LogFilter) (target : String) : LogThreshold :=
  if filter.directives.isEmpty then some .error
  else (deciding? filter.directives target).bind (·.threshold)

def admits (filter : LogFilter) (entry : LogEntry) : Bool :=
  (filter.threshold entry.target).admits entry.level && filter.matchesText entry.text

/-- The filter that looks at no text. -/
def ofDirectives (directives : List LogDirective) : LogFilter :=
  ⟨directives, fun _ => true⟩

/-- Let both parts of this program log up to a level. -/
def ofThreshold (threshold : LogThreshold) : LogFilter :=
  ofDirectives [⟨"get_pillar".toList, threshold⟩, ⟨"pillar_model".toList, threshold⟩]

def warning (text : List Char) (remark : String) : String :=
  "warning: invalid logging spec '" ++ String.ofList text ++ "', ignoring it" ++ remark

def blankTrim (text : List Char) : List Char :=
  Text.trim Text.isBlank text

/-- A level for everything, or the name of a part of the program, which then logs all it can. -/
def bareDirective (text : List Char) : LogDirective :=
  match LogThreshold.ofChars? (blankTrim text) with
  | some threshold => ⟨[], threshold⟩
  | none => ⟨text, some .trace⟩

/-- Read one directive, or a warning. -/
def readDirective (text : List Char) : Except String LogDirective :=
  match Text.splitAt (· = '=') text with
  | [scope] => .ok (bareDirective scope)
  | [scope, level] =>
      let level := blankTrim level
      if level.isEmpty then .ok ⟨scope, some .trace⟩
      else
        match LogThreshold.ofChars? level with
        | some threshold => .ok ⟨scope, threshold⟩
        | none => .error (warning level "")
  | _ => .error (warning text "")

def readDirectives (text : List Char) : List (Except String LogDirective) :=
  (((Text.splitAt (· = ',') text).map blankTrim).filter fun part => !part.isEmpty).map readDirective

def accepted? : Except String LogDirective → Option LogDirective
  | .ok directive => some directive
  | .error _ => none

def warning? : Except String LogDirective → Option String
  | .ok _ => none
  | .error text => some text

def patternWarning (reason : String) : String :=
  "warning: invalid regex filter - " ++ reason

/-- Read directives between commas and, behind a slash, a pattern. A bad pattern is left out. -/
def ofSpec (patterns : LogPatterns) (spec : String) : LogFilter × List String :=
  match Text.splitAt (· = '/') spec.toList with
  | [scopes] =>
      let read := readDirectives scopes
      (ofDirectives (read.filterMap accepted?), read.filterMap warning?)
  | [scopes, pattern] =>
      let read := readDirectives scopes
      match patterns.compile pattern with
      | .ok matchesText => (⟨read.filterMap accepted?, matchesText⟩, read.filterMap warning?)
      | .error reason =>
          (ofDirectives (read.filterMap accepted?),
            read.filterMap warning? ++ [patternWarning reason])
  | _ => (ofDirectives [], [warning spec.toList " (too many '/'s)"])

end LogFilter

namespace LogPatterns

def occursIn (part : List Char) : List Char → Bool
  | [] => part.isEmpty
  | char :: rest => part.isPrefixOf (char :: rest) || occursIn part rest

/-- Patterns without special characters, which match where they occur. -/
def literal : LogPatterns where
  compile pattern := .ok fun text => occursIn pattern text.toList

end LogPatterns

end PillarLookup
