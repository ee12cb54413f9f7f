import PillarLookup.Text.Split
import PillarLookup.Url.Punycode

/-!
# Domains

The name of a host is brought to ASCII before it is used: characters are mapped,
composed and encoded, and labels that are encoded already are judged. The tables of
all scripts that this takes are not part of this library. The whole step, domain to
ASCII in the terms of the URL standard, is a parameter of everything that reads an
address, and what is relied on is the law that the standard gives for plain names.
-/

namespace PillarLookup.Url

namespace Domain

def isAscii (char : Char) : Bool :=
  char.toNat < 0x80

/-- What no name may hold once it is in ASCII. -/
def isForbidden (char : Char) : Bool :=
  char.toNat ≤ 0x20 || char.toNat = 0x7F ||
    ['%', '#', '/', ':', '<', '>', '?', '@', '[', '\\', ']', '^', '|'].contains char

/-- The parts of a name between its dots. -/
def labels (name : List Char) : List (List Char) :=
  Text.splitAt (· = '.') name

/-- What a label begins with that is encoded. -/
def mark : List Char :=
  ['x', 'n', '-', '-']

/-- Whether a label claims to be encoded, in letters of any case. -/
def isMarked (label : List Char) : Bool :=
  mark.isPrefixOf (label.map Char.toLower)

/-- A name in ASCII without encoded labels, of which only the capitals can change. -/
def isPlain (name : List Char) : Bool :=
  name.all (fun char => isAscii char && !isForbidden char) && !(labels name).any isMarked

/-- Whether what a label encodes, if it claims to, lies beyond ASCII. -/
def isSpelled (label : List Char) : Bool :=
  let encoded := (label.map Char.toLower).drop mark.length
  !isMarked label ||
    (Punycode.decode? encoded).any fun spelled => !spelled.all isAscii

end Domain

/-- How names of hosts are brought to ASCII; some are refused. -/
structure Domains where
  toAscii? : List Char → Option (List Char)
  toAscii?_of_isPlain : ∀ name, Domain.isPlain name = true →
    toAscii? name = some (name.map Char.toLower)

/--
The names in ASCII alone. Those beyond are refused, and of an encoded label only the
encoding is judged, not the characters that it spells.
-/
def Domains.ascii : Domains where
  toAscii? name :=
    if name.all Domain.isAscii && (Domain.labels name).all Domain.isSpelled then
      some (name.map Char.toLower)
    else none
  toAscii?_of_isPlain := by
    intro name plain
    simp only [Domain.isPlain, Bool.and_eq_true, Bool.not_eq_true', List.any_eq_false,
      List.all_eq_true] at plain
    have ascii : name.all Domain.isAscii = true :=
      List.all_eq_true.mpr fun char listed => (plain.1 char listed).1
    have spelled : (Domain.labels name).all Domain.isSpelled = true := by
      rw [List.all_eq_true]
      intro label listed
      simp [Domain.isSpelled, plain.2 label listed]
    rw [if_pos (by rw [ascii, spelled]; rfl)]

end PillarLookup.Url
