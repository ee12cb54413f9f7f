import PillarLookup.Url.Address
import PillarLookup.Url.Domain
import PillarLookup.Url.Percent

/-!
# Hosts

The host of an address is a name, a numeric address or empty. For special schemes
percent escapes in it are resolved and the name is brought to ASCII; for others it
is kept as it is.
-/

namespace PillarLookup.Url

inductive Fault where
  | emptyHost
  | badDomain
  | badDomainCharacter
  | badPort
  | badAddress32
  | badAddress128
  | noScheme
  | noHierarchy
deriving DecidableEq, Repr

def Fault.message : Fault → String
  | .emptyHost => "empty host"
  | .badDomain => "invalid international domain name"
  | .badDomainCharacter => "invalid domain character"
  | .badPort => "invalid port number"
  | .badAddress32 => "invalid IPv4 address"
  | .badAddress128 => "invalid IPv6 address"
  | .noScheme => "relative URL without a base"
  | .noHierarchy => "relative URL with a cannot-be-a-base base"

inductive Host where
  | empty
  | name (text : String)
  | address32 (value : Nat)
  | address128 (pieces : List Nat)
deriving DecidableEq, Repr

namespace Host

def chars : Host → List Char
  | .empty => []
  | .name text => text.toList
  | .address32 value => Address.chars32 value
  | .address128 pieces => '[' :: Address.chars128 pieces ++ [']']

def isEmpty : Host → Bool
  | .empty => true
  | _ => false

/-- Whether a request can name the host: some marks may stand in a name, but in no request. -/
def isSendable : Host → Bool
  | .name text => !text.toList.any ['"', '\x60', '\x7b', '\x7d'].contains
  | _ => true

/-- What no host of another scheme may hold. -/
def isForbiddenOutside (char : Char) : Bool :=
  ['\x00', '\t', '\n', '\r', ' ', '#', '/', ':', '<', '>', '?', '@', '[', '\\', ']', '^',
    '|'].contains char

/-- An address between brackets, the opening one already consumed. -/
def parseBracketed (chars : List Char) : Except Fault Host :=
  if chars.getLast? = some ']' then
    match Address.parse128? chars.dropLast with
    | some pieces => .ok (.address128 pieces)
    | none => .error .badAddress128
  else .error .badAddress128

/-- What the name that a text with escapes spells is in ASCII. -/
def domain? (domains : Domains) (chars : List Char) : Option (List Char) := do
  let spelled ← Percent.decodeText? (String.ofList chars)
  let domain ← domains.toAscii? spelled.toList
  if domain.any Domain.isForbidden then none else some domain

/-- The host of a special scheme. -/
def parse (domains : Domains) : List Char → Except Fault Host
  | '[' :: rest => parseBracketed rest
  | chars =>
      match domain? domains chars with
      | none => .error .badDomain
      | some domain =>
          if domain.isEmpty then .error .emptyHost
          else if Address.endsInNumber domain then
            match Address.parse32? domain with
            | some value => .ok (.address32 value)
            | none => .error .badAddress32
          else .ok (.name (String.ofList domain))

/-- The host of any other scheme; it may be empty. -/
def parseOutside : List Char → Except Fault Host
  | [] => .ok .empty
  | '[' :: rest => parseBracketed rest
  | chars =>
      if chars.any isForbiddenOutside then .error .badDomainCharacter
      else .ok (.name (String.ofList (Percent.encode Percent.isControl chars)))

end Host

end PillarLookup.Url
