import PillarLookup.Binary64.Layout
import PillarLookup.Json.Members

/-!
# JSON values

The values a pillar can have, and their compact text: no blanks, keys in order,
and escapes for quotes, backslashes and control characters only.
-/

namespace PillarLookup

inductive Json where
  | null
  | bool (value : Bool)
  | int (value : Int)
  | real (value : Binary64)
  | str (value : String)
  | arr (items : List Json)
  | obj (members : List (String × Json))
deriving Repr, Inhabited

namespace Json

/-- The integers that stay integers when read: unsigned or signed words of 64 bits. -/
def greatestUnsigned : Nat := 18446744073709551615

def leastSigned : Int := -9223372036854775808

def asString? : Json → Option String
  | .str value => some value
  | _ => none

def asArray? : Json → Option (List Json)
  | .arr items => some items
  | _ => none

def asObject? : Json → Option (Members Json)
  | .obj members => some members
  | _ => none

/-- The value under a key, if there is an object that has it. -/
def get? (value : Json) (key : String) : Option Json :=
  value.asObject?.bind fun members => members.get? key

/-- The elements of a list of strings; `none` if anything else is in it. -/
def strings? (items : List Json) : Option (List String) :=
  items.mapM asString?

end Json

end PillarLookup
