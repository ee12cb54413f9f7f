import PillarLookup.Text.Blank
import PillarLookup.Text.Split
import PillarLookup.Url.Percent

/-!
# Paths

A path is a list of segments with a slash before each of them, or text without a
hierarchy. Segments of one dot are dropped and those of two dots take the segment
before them away, unless that begins with a drive letter. A drive letter that opens
the path of a file is written with a colon and stands for a place on this machine.
-/

namespace PillarLookup.Url

inductive Path where
  | segments (parts : List String)
  | plain (text : String)
deriving DecidableEq, Repr

namespace Path

def segmentChars (parts : List String) : List Char :=
  parts.flatMap fun part => '/' :: part.toList

def chars : Path → List Char
  | .segments parts => segmentChars parts
  | .plain text => text.toList

/-- Whether the path names a directory by its last slash. -/
def endsWithSlash : Path → Bool
  | .segments parts => parts.getLast? = some ""
  | .plain text => text.toList.getLast? = some '/'

def isDot (segment : List Char) : Bool :=
  segment = ['.'] || segment.map Char.toLower = ['%', '2', 'e']

def isDoubleDot (segment : List Char) : Bool :=
  let lower := segment.map Char.toLower
  lower = ['.', '.'] || lower = ['.', '%', '2', 'e'] || lower = ['%', '2', 'e', '.'] ||
    lower = ['%', '2', 'e', '%', '2', 'e']

/-- A letter followed by a colon or a bar. -/
def isDriveLetter : List Char → Bool
  | [letter, mark] => letter.isAlpha && (mark = ':' || mark = '|')
  | _ => false

/-- A drive letter by itself or before a backslash. -/
def beginsWithDriveLetter (segment : List Char) : Bool :=
  isDriveLetter (segment.takeWhile (· ≠ '\\'))

/--
A segment as it stands in an address. It is torn if tabs or line breaks, which are
left out of it, stand between a drive letter with a colon and more text.
-/
inductive Segment where
  | whole (chars : List Char)
  | torn (letter : Char) (rest : List Char)
deriving DecidableEq, Repr

namespace Segment

def chars : Segment → List Char
  | .whole chars => chars
  | .torn letter rest => letter :: ':' :: rest

/-- The letter and the text behind the tabs and line breaks that tear a segment. -/
def tear? (written : List Char) : Option (Char × List Char) :=
  match written.dropWhile Text.isTabOrBreak with
  | [] => none
  | letter :: more =>
      match more.dropWhile Text.isTabOrBreak with
      | ':' :: after =>
          let rest := Text.withoutTabsAndBreaks after
          if letter.isAlpha && after.head?.any Text.isTabOrBreak && !rest.isEmpty then
            some (letter, rest)
          else none
      | _ => none

def encode (chars : List Char) : List Char :=
  Percent.encode Percent.inPath chars

def ofChars (written : List Char) : Segment :=
  match tear? written with
  | some (letter, rest) => .torn letter (encode rest)
  | none => .whole (encode (Text.withoutTabsAndBreaks written))

end Segment

/-- The segments of a text behind the root. -/
def segmentsBehindRoot (isSeparator : Char → Bool) (chars : List Char) : List Segment :=
  (Text.splitAt isSeparator chars).map Segment.ofChars

/-- The segments of a text whose first slash is the root; that slash may be missing. -/
def segmentsFromRoot (isSeparator : Char → Bool) (chars : List Char) : List Segment :=
  match segmentsBehindRoot isSeparator chars with
  | .whole [] :: second :: more => second :: more
  | found => found

/-- Only the last of the empty segments that lead a path is kept. -/
def dropLeadingEmpty : List String → List String
  | [] => []
  | [only] => [only]
  | first :: second :: rest =>
      if first = "" then dropLeadingEmpty (second :: rest) else first :: second :: rest

/-- Where segments lead, and whether a drive letter opened the path of a file. -/
structure Trail where
  inFile : Bool
  parts : List String
  onDrive : Bool
deriving DecidableEq, Repr

namespace Trail

def start (inFile : Bool) (directory : List String) : Trail :=
  ⟨inFile, directory, false⟩

def add (trail : Trail) (part : List Char) : Trail :=
  { trail with parts := trail.parts ++ [String.ofList part] }

/-- Go one level up, but not from a drive letter. -/
def up (trail : Trail) : Trail :=
  match trail.parts.getLast? with
  | some last =>
      if beginsWithDriveLetter last.toList then trail
      else { trail with parts := trail.parts.dropLast }
  | none => trail

/-- Add what opens the path of a file. -/
def openFile (trail : Trail) : Segment → Trail
  | .torn letter rest => (trail.add [letter, ':']).add rest
  | .whole [letter, mark] =>
      if isDriveLetter [letter, mark] then { trail.add [letter, ':'] with onDrive := true }
      else trail.add [letter, mark]
  | .whole chars => trail.add chars

def enter (trail : Trail) (segment : Segment) : Trail :=
  if trail.inFile && trail.parts.isEmpty then trail.openFile segment
  else trail.add segment.chars

def step (trail : Trail) (segment : Segment) : Trail :=
  if isDoubleDot segment.chars then trail.up
  else if isDot segment.chars then trail
  else trail.enter segment

def isDots (segment : Segment) : Bool :=
  isDot segment.chars || isDoubleDot segment.chars

/-- Follow segments; dots in the last place name the directory itself. -/
def follow (trail : Trail) (segments : List Segment) : Trail :=
  let reached := segments.foldl step trail
  if segments.getLast?.any isDots then reached.add [] else reached

/-- The path of a file does not begin with empty segments. -/
def path (trail : Trail) : Path :=
  .segments (if trail.inFile then dropLeadingEmpty trail.parts else trail.parts)

end Trail

/-- Put a slash behind the last segment. The path of a file is read anew with it. -/
def appendSlash (inFile : Bool) (parts : List String) : Path :=
  if inFile then
    ((Trail.start true []).follow ((parts ++ [""]).map fun part => .whole part.toList)).path
  else .segments (parts ++ [""])

end Path

end PillarLookup.Url
