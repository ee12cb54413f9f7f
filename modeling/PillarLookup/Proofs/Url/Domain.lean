import PillarLookup.Proofs.Text.Utf8
import PillarLookup.Url.Parser

/-!
# Plain names of hosts

A plain name without escapes is the host itself in small letters, unless it ends in a
number. That much holds however other names are brought to ASCII.
-/

namespace PillarLookup.Url

namespace Percent

/-- The byte of the percent sign is part of no other character. -/
theorem percent_mem_of_mem_encode {text : String} (listed : 37 ∈ Text.Utf8.encode text) :
    '%' ∈ text.toList := by
  obtain ⟨char, member, found⟩ := List.mem_flatMap.mp listed
  have code := (Text.Utf8.spells_encodeChar char).code_of_mem found (by decide)
  have same : char = '%' := Char.toNat_inj.mp code
  exact same ▸ member

theorem decode_of_not_mem {bytes : List UInt8} (free : 37 ∉ bytes) : decode bytes = bytes := by
  induction bytes using decode.induct with
  | case1 => rfl
  | case2 only => rfl
  | case3 first second => rfl
  | case4 second third rest high low ih => simp at free
  | case5 second third rest none ih => simp at free
  | case6 first second third rest other ih =>
      rw [decode, if_neg other, ih (List.not_mem_of_not_mem_cons free)]

theorem decodeText?_of_not_mem {text : String} (free : '%' ∉ text.toList) :
    decodeText? text = some text := by
  rw [decodeText?, decode_of_not_mem (mt percent_mem_of_mem_encode free)]
  exact Text.Utf8.decode?_eq_some_iff.mpr rfl

end Percent

namespace Domain

theorem isForbidden_toLower {char : Char} (ascii : isAscii char = true) :
    isForbidden char.toLower = isForbidden char := by
  have each : ∀ code ∈ List.range 128,
      isForbidden (Char.ofNat code).toLower = isForbidden (Char.ofNat code) := by decide +kernel
  have code : char.toNat ∈ List.range 128 := List.mem_range.mpr (of_decide_eq_true ascii)
  exact Char.ofNat_toNat char ▸ each char.toNat code

variable {name : List Char}

theorem isAscii_of_isPlain (plain : isPlain name = true) :
    ∀ char ∈ name, isAscii char = true ∧ isForbidden char = false := by
  simp only [isPlain, Bool.and_eq_true, List.all_eq_true, Bool.not_eq_true'] at plain
  exact plain.1

end Domain

namespace Host

open Domain (isPlain isForbidden)

variable {name : List Char}

theorem domain?_of_isPlain (domains : Domains) (plain : isPlain name = true) :
    domain? domains name = some (name.map Char.toLower) := by
  have allowed := Domain.isAscii_of_isPlain plain
  have free : '%' ∉ (String.ofList name).toList := by
    rw [String.toList_ofList]
    intro listed
    cases (allowed '%' listed).2
  have clean : ¬(name.map Char.toLower).any isForbidden = true := by
    rw [List.any_map, List.any_eq_true]
    rintro ⟨char, listed, forbidden⟩
    obtain ⟨ascii, fine⟩ := allowed char listed
    rw [Function.comp_apply, Domain.isForbidden_toLower ascii, fine] at forbidden
    cases forbidden
  rw [domain?, Percent.decodeText?_of_not_mem free, Option.bind_eq_bind, Option.bind_some,
    String.toList_ofList, domains.toAscii?_of_isPlain name plain, Option.bind_eq_bind,
    Option.bind_some, if_neg clean]

/-- A plain name is the host in small letters, unless it ends in a number. -/
theorem parse_of_isPlain (domains : Domains) (plain : isPlain name = true) (present : name ≠ [])
    (unnumbered : Address.endsInNumber (name.map Char.toLower) = false) :
    parse domains name = .ok (.name (String.ofList (name.map Char.toLower))) := by
  have unbracketed : ∀ rest, name ≠ '[' :: rest := by
    rintro rest rfl
    cases (Domain.isAscii_of_isPlain plain '[' List.mem_cons_self).2
  rw [parse.eq_2 domains name unbracketed, domain?_of_isPlain domains plain]
  simp [present, unnumbered]

end Host

theorem SchemeKind.parseHost_of_isPlain (domains : Domains) {kind : SchemeKind}
    {name : List Char} (special : kind.isSpecial = true) (plain : Domain.isPlain name = true)
    (present : name ≠ [])
    (unnumbered : Address.endsInNumber (name.map Char.toLower) = false) :
    kind.parseHost domains name = .ok (.name (String.ofList (name.map Char.toLower))) := by
  have filled : ¬name.isEmpty = true := by simpa using present
  rw [parseHost, if_pos special, if_neg filled,
    Host.parse_of_isPlain domains plain present unnumbered]

/-- An address without user information consists of a host and a port. -/
theorem parseAuthority_of_parseHost {domains : Domains} {scheme : String} {kind : SchemeKind}
    (body : Body) {chars authority rest name tail left : List Char} {host : Host}
    {port : Option Nat}
    (first : chars.takeWhile (fun char => !kind.isSlash char) = authority)
    (behind : chars.dropWhile (fun char => !kind.isSlash char) = rest)
    (anonymous : cutAtLastAt? authority = none) (sides : cutHost false authority = (name, tail))
    (hosted : kind.parseHost domains name = .ok host) (present : host.isEmpty = false)
    (ported : parsePortPart kind.standardPort tail = .ok (port, left)) :
    parseAuthority domains scheme kind body chars =
      .ok ⟨scheme, "", none, some host, port, pathAfterHost kind (left ++ rest), none, none⟩ := by
  have nobody : userInfo [] = ("", none) := by decide
  simp [parseAuthority, first, behind, anonymous, sides, hosted, present, ported, nobody]

/-! ## One name beyond ASCII -/

/-- Know one name more, which is not plain. -/
def Domains.withName (domains : Domains) (name encoded : List Char)
    (beyond : Domain.isPlain name = false) : Domains where
  toAscii? other := if other = name then some encoded else domains.toAscii? other
  toAscii?_of_isPlain := by
    intro other plain
    have differs : other ≠ name := by
      rintro rfl
      cases beyond.symm.trans plain
    rw [if_neg differs]
    exact domains.toAscii?_of_isPlain other plain

def Domains.withMunich : Domains :=
  Domains.ascii.withName "münchen.example".toList "xn--mnchen-3ya.example".toList (by decide)

end PillarLookup.Url
