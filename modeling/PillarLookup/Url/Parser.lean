import PillarLookup.Text.Blank
import PillarLookup.Url.Basic

/-!
# Reading addresses

Controls and spaces around the text are dropped, and tabs and line breaks
anywhere. The special schemes take a backslash for a slash, need a host and have
a standard port each; in other schemes the text after the scheme may lack a
hierarchy altogether.
-/

namespace PillarLookup.Url

inductive SchemeKind where
  | network (port : Nat)
  | file
  | other
deriving DecidableEq, Repr

def schemeKind (scheme : String) : SchemeKind :=
  if scheme = "http" || scheme = "ws" then .network 80
  else if scheme = "https" || scheme = "wss" then .network 443
  else if scheme = "ftp" then .network 21
  else if scheme = "file" then .file
  else .other

namespace SchemeKind

def isSpecial : SchemeKind → Bool
  | .other => false
  | _ => true

def isSlash (kind : SchemeKind) (char : Char) : Bool :=
  char = '/' || (kind.isSpecial && char = '\\')

end SchemeKind

def isSchemeChar (char : Char) : Bool :=
  char.isAlpha || Text.isDigit char || char = '+' || char = '-' || char = '.'

/-- Cut off a scheme in small letters; `none` if the text does not begin with one. -/
def cutScheme? (chars : List Char) : Option (String × List Char) :=
  let mayStand (char : Char) : Bool := isSchemeChar char || Text.isTabOrBreak char
  let name := Text.withoutTabsAndBreaks (chars.takeWhile mayStand)
  match name, chars.dropWhile mayStand with
  | first :: _, ':' :: rest =>
      if first.isAlpha then some (String.ofList (name.map Char.toLower), rest) else none
  | _, _ => none

/-- Cut a text at the first character of a kind; what follows it is `none` if there is no such. -/
def cutAt (mark : Char) (chars : List Char) : List Char × Option (List Char) :=
  match chars.dropWhile (· ≠ mark) with
  | [] => (chars, none)
  | _ :: rest => (chars.takeWhile (· ≠ mark), some rest)

/-- The parts of what follows a scheme, with the tabs and line breaks in them. -/
structure Body where
  hierarchy : List Char
  query : Option (List Char)
  fragment : Option (List Char)

def Body.ofChars (chars : List Char) : Body :=
  let outer := cutAt '#' chars
  let inner := cutAt '?' outer.1
  ⟨inner.1, inner.2, outer.2⟩

def Body.endsAtHierarchy (body : Body) : Bool :=
  body.query.isNone && body.fragment.isNone

/-- Put the encoded query and fragment on an address. -/
def Body.finish (body : Body) (kind : SchemeKind) (url : Url) : Url :=
  let excluded := if kind.isSpecial then Percent.inSpecialQuery else Percent.inQuery
  let encoded (excluded : Char → Bool) (chars : List Char) : String :=
    String.ofList (Percent.encode excluded (Text.withoutTabsAndBreaks chars))
  { url with
    query := body.query.map (encoded excluded)
    fragment := body.fragment.map (encoded Percent.inFragment) }

/-- Cut a text at the last sign that ends user information. -/
def cutAtLastAt? (chars : List Char) : Option (List Char × List Char) :=
  match chars.reverse.dropWhile (· ≠ '@') with
  | [] => none
  | _ :: before => some (before.reverse, (chars.reverse.takeWhile (· ≠ '@')).reverse)

def encodeUserInfo (chars : List Char) : String :=
  String.ofList (Percent.encode Percent.inUserInfo chars)

/-- The user name and the password; an empty password is none. -/
def userInfo (chars : List Char) : String × Option String :=
  let cut := cutAt ':' chars
  (encodeUserInfo cut.1, (cut.2.filter fun rest => !rest.isEmpty).map encodeUserInfo)

/-- Cut a host from its port; a colon between brackets belongs to the host. -/
def cutHost (bracketed : Bool) : List Char → List Char × List Char
  | [] => ([], [])
  | char :: rest =>
      if char = ':' && !bracketed then ([], char :: rest)
      else
        let inside := if char = '[' then true else if char = ']' then false else bracketed
        let cut := cutHost inside rest
        (char :: cut.1, cut.2)

def greatestPort : Nat := 65535

/-- A port, and what is left after it; only a backslash may follow its digits. -/
def parsePort (standard : Option Nat) (chars : List Char) :
    Except Fault (Option Nat × List Char) :=
  let digits := chars.takeWhile Text.isDigit
  let rest := chars.dropWhile Text.isDigit
  let port := Text.ofDigits digits
  if greatestPort < port then .error .badPort
  else if rest.isEmpty || rest.head? = some '\\' then
    .ok (if digits.isEmpty || some port = standard then none else some port, rest)
  else .error .badPort

def parsePortPart (standard : Option Nat) : List Char → Except Fault (Option Nat × List Char)
  | ':' :: rest => parsePort standard rest
  | rest => .ok (none, rest)

def SchemeKind.standardPort : SchemeKind → Option Nat
  | .network port => some port
  | _ => none

def SchemeKind.parseHost (domains : Domains) (kind : SchemeKind) (chars : List Char) :
    Except Fault Host :=
  if kind.isSpecial then
    if chars.isEmpty then .error .emptyHost else Host.parse domains chars
  else Host.parseOutside chars

/-- The path after a host; a special scheme has at least the root. -/
def pathAfterHost (kind : SchemeKind) (chars : List Char) : Path :=
  if chars.isEmpty && !kind.isSpecial then .segments []
  else ((Path.Trail.start false []).follow (Path.segmentsFromRoot kind.isSlash chars)).path

/-- Read what follows two slashes. -/
def parseAuthority (domains : Domains) (scheme : String) (kind : SchemeKind) (body : Body)
    (chars : List Char) : Except Fault Url :=
  let authority := chars.takeWhile fun char => !kind.isSlash char
  let rest := chars.dropWhile fun char => !kind.isSlash char
  let cut := cutAtLastAt? authority
  let info := userInfo ((cut.map (·.1)).getD [])
  let hostAndPort := (cut.map (·.2)).getD authority
  let nothingAround := cut = some ([], [])
  if nothingAround ∧ ¬(rest.isEmpty ∧ body.endsAtHierarchy) then .error .emptyHost
  else
    let sides := cutHost false hostAndPort
    match kind.parseHost domains sides.1 with
    | .error fault => .error fault
    | .ok host =>
        if host.isEmpty && (!sides.2.isEmpty) then .error .emptyHost
        else
          match parsePortPart kind.standardPort sides.2 with
          | .error fault => .error fault
          | .ok (port, left) =>
              if host.isEmpty && (info.1 ≠ "" || info.2.isSome) then .error .emptyHost
              else
                .ok ⟨scheme, info.1, info.2, some host, port, pathAfterHost kind (left ++ rest),
                  none, none⟩

/-- Cut off the slash that a text begins with. -/
def SchemeKind.cutSlash? (kind : SchemeKind) (chars : List Char) : Option (List Char) :=
  match chars.dropWhile Text.isTabOrBreak with
  | char :: rest => if kind.isSlash char then some rest else none
  | [] => none

/--
The host of a file, which is empty for this machine, and the segments of the path.
Behind two slashes and no host the root is known, so that one more slash ends an
empty segment.
-/
def parseFileHost (domains : Domains) (chars : List Char) :
    Except Fault (Host × List Path.Segment) :=
  let isSlash := SchemeKind.file.isSlash
  match (SchemeKind.file.cutSlash? chars).bind SchemeKind.file.cutSlash? with
  | none => .ok (.empty, Path.segmentsFromRoot isSlash chars)
  | some after =>
      let name := Text.withoutTabsAndBreaks (after.takeWhile fun char => !isSlash char)
      let rest := after.dropWhile fun char => !isSlash char
      if Path.isDriveLetter name then .ok (.empty, Path.segmentsBehindRoot isSlash after)
      else if name.isEmpty then .ok (.empty, Path.segmentsBehindRoot isSlash rest)
      else
        match Host.parse domains name with
        | .error fault => .error fault
        | .ok host =>
            if host = .name "localhost" then .ok (.empty, Path.segmentsBehindRoot isSlash rest)
            else .ok (host, Path.segmentsFromRoot isSlash rest)

/-- A path that a drive letter opens belongs to this machine. -/
def parseFile (domains : Domains) (scheme : String) (chars : List Char) : Except Fault Url :=
  match parseFileHost domains chars with
  | .error fault => .error fault
  | .ok (host, segments) =>
      let trail := (Path.Trail.start true []).follow segments
      let host := if trail.onDrive then .empty else host
      .ok ⟨scheme, "", none, some host, none, trail.path, none, none⟩

/-- Read a scheme that is none of the special ones. -/
def parseOther (domains : Domains) (scheme : String) (body : Body) (hierarchy : List Char) :
    Except Fault Url :=
  match hierarchy with
  | '/' :: '/' :: rest => parseAuthority domains scheme .other body rest
  | '/' :: rest =>
      .ok ⟨scheme, "", none, none, none, pathAfterHost .other ('/' :: rest), none, none⟩
  | chars =>
      let text := String.ofList (Percent.encode Percent.isControl chars)
      .ok ⟨scheme, "", none, none, none, .plain text, none, none⟩

/-- Tabs and line breaks are left out; only the path of a file shows where they stood. -/
def parseBody (domains : Domains) (scheme : String) (body : Body) : Except Fault Url :=
  let hierarchy := Text.withoutTabsAndBreaks body.hierarchy
  match schemeKind scheme with
  | .network port =>
      let kind := SchemeKind.network port
      parseAuthority domains scheme kind body (hierarchy.dropWhile kind.isSlash)
  | .file => parseFile domains scheme body.hierarchy
  | .other => parseOther domains scheme body hierarchy

def parse (domains : Domains) (text : String) : Except Fault Url :=
  match cutScheme? (Text.trim Text.isControlOrSpace text.toList) with
  | none => .error .noScheme
  | some (scheme, rest) =>
      let body := Body.ofChars rest
      match parseBody domains scheme body with
      | .error fault => .error fault
      | .ok url => .ok (body.finish (schemeKind scheme) url)

end PillarLookup.Url
