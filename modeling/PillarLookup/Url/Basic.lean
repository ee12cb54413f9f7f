import PillarLookup.Url.Host
import PillarLookup.Url.Path

/-!
# Addresses of services

A uniform resource locator in its parts, its text, and the resolution of relative
paths against it.
-/

namespace PillarLookup

/-- `host` is `none` if the text has no place for a host at all. -/
structure Url where
  scheme : String
  username : String
  password : Option String
  host : Option Url.Host
  port : Option Nat
  path : Url.Path
  query : Option String
  fragment : Option String
deriving DecidableEq, Repr

namespace Url

def hasHost (url : Url) : Bool :=
  match url.host with
  | some host => !host.isEmpty
  | none => false

def credentialChars (url : Url) : List Char :=
  match url.password with
  | some password => url.username.toList ++ ':' :: password.toList ++ ['@']
  | none => if url.username = "" then [] else url.username.toList ++ ['@']

def portChars (url : Url) : List Char :=
  match url.port with
  | some port => ':' :: Text.digits port
  | none => []

/-- A path that begins with two slashes must not be taken for a host. -/
def hostGuard : Path → List Char
  | .segments ("" :: _ :: _) => ['/', '.']
  | _ => []

def authorityChars (url : Url) : List Char :=
  match url.host with
  | some host => '/' :: '/' :: url.credentialChars ++ host.chars ++ url.portChars
  | none => hostGuard url.path

def queryChars (url : Url) : List Char :=
  match url.query with
  | some query => '?' :: query.toList
  | none => []

def fragmentChars (url : Url) : List Char :=
  match url.fragment with
  | some fragment => '#' :: fragment.toList
  | none => []

def chars (url : Url) : List Char :=
  url.scheme.toList ++ ':' :: url.authorityChars ++ url.path.chars ++ url.queryChars ++
    url.fragmentChars

def text (url : Url) : String :=
  String.ofList url.chars

/-- The path and the query, as they stand in a request. -/
def target (url : Url) : String :=
  String.ofList (url.path.chars ++ url.queryChars)

def isFile (url : Url) : Bool :=
  url.scheme = "file"

/-- Add a slash to a path that does not end in one. -/
def withFinalSlash (url : Url) : Url :=
  match url.path with
  | .segments parts =>
      if url.path.endsWithSlash then url
      else { url with path := Path.appendSlash url.isFile parts }
  | .plain _ => url

/--
Resolve a reference that is empty or a relative path: an empty one keeps the query, a
path takes the place of the last segment.
-/
def resolve (base : Url) (reference : String) : Except Fault Url :=
  match base.path with
  | .plain _ => .error .noHierarchy
  | .segments parts =>
      if reference = "" then .ok { base with fragment := none }
      else
        let directory := Path.Trail.start base.isFile parts.dropLast
        let added := Path.segmentsFromRoot (· = '/') reference.toList
        .ok
          { base with
            path := (directory.follow added).path
            query := none
            fragment := none }

/-- Whether the user name and the password are texts that can be sent in a header. -/
def hasSendableCredentials (url : Url) : Bool :=
  match Percent.decodeText? url.username with
  | none => false
  | some username => username ≠ "" || (url.password.bind Percent.decodeText?).isSome

/-- Credentials travel in a header of their own and leave the address. -/
def withoutCredentials (url : Url) : Url :=
  if url.hasSendableCredentials then { url with username := "", password := none } else url

/-- The greatest length of an address in a request. -/
def greatestLength : Nat := 65534

/-- Whether a request can be sent to an address of the web. -/
def isSendable (url : Url) : Bool :=
  url.host.all Host.isSendable && url.chars.length ≤ greatestLength

end Url

end PillarLookup
