import PillarLookup.Json.Shape

/-!
# Queries

A query names a pillar and the minions to ask. Both texts reach the Salt master
unchanged, so all that is required of them is that they are not empty.
-/

namespace PillarLookup

/-- How a target selects minions. -/
inductive TargetType where
  | glob
  | pcre
  | list
  | grain
  | grainPcre
  | pillar
  | nodegroup
  | range
  | compound
  | ipcidr
deriving DecidableEq, Repr

namespace TargetType

def all : List TargetType :=
  [.glob, .pcre, .list, .grain, .grainPcre, .pillar, .nodegroup, .range, .compound, .ipcidr]

def name : TargetType → String
  | .glob => "glob"
  | .pcre => "pcre"
  | .list => "list"
  | .grain => "grain"
  | .grainPcre => "grain_pcre"
  | .pillar => "pillar"
  | .nodegroup => "nodegroup"
  | .range => "range"
  | .compound => "compound"
  | .ipcidr => "ipcidr"

abbrev default : TargetType := .glob

def names : List String :=
  all.map name

def ofName? (text : String) : Option TargetType :=
  all.find? fun type => type.name = text

theorem ofName?_name (type : TargetType) : ofName? type.name = some type := by
  cases type <;> decide

theorem name_of_ofName? {text : String} {type : TargetType} (found : ofName? text = some type) :
    type.name = text := by
  simpa using List.find?_some found

theorem name_injective {first second : TargetType} (same : first.name = second.name) :
    first = second := by
  have := ofName?_name first
  rw [same, ofName?_name] at this
  exact (Option.some.inj this).symm

end TargetType

structure Query where
  target : String
  pillar : String
  targetType : TargetType
  target_ne_empty : target ≠ ""
  pillar_ne_empty : pillar ≠ ""
deriving DecidableEq, Repr

inductive QueryError where
  | emptyTarget
  | emptyPillar
  | unknownTargetType (name : String)
deriving DecidableEq, Repr

def QueryError.message : QueryError → String
  | .emptyTarget => "Invalid query: target must not be empty"
  | .emptyPillar => "Invalid query: pillar must not be empty"
  | .unknownTargetType name =>
      "Parse error: " ++ (Json.Cause.unknownName name TargetType.names).describe

namespace Query

/-- A query of the default target type; the target is checked first. -/
def make (target pillar : String) : Except QueryError Query :=
  if target_empty : target = "" then .error .emptyTarget
  else if pillar_empty : pillar = "" then .error .emptyPillar
  else .ok ⟨target, pillar, .default, target_empty, pillar_empty⟩

def withTargetType (query : Query) (targetType : TargetType) : Query :=
  { query with targetType }

def targetTypeOf (name : String) : Except QueryError TargetType :=
  match TargetType.ofName? name with
  | some type => .ok type
  | none => .error (.unknownTargetType name)

/-- A query whose target type is given by name, if at all. -/
def makeNamed (target pillar : String) (targetType : Option String) : Except QueryError Query :=
  match make target pillar with
  | .error error => .error error
  | .ok query =>
      match targetType with
      | none => .ok query
      | some name =>
          match targetTypeOf name with
          | .error error => .error error
          | .ok type => .ok (query.withTargetType type)

theorem make_eq_ok_iff {target pillar : String} {query : Query} :
    make target pillar = .ok query ↔
      query.target = target ∧ query.pillar = pillar ∧ query.targetType = .default := by
  constructor
  · intro made
    unfold make at made
    split at made
    · contradiction
    · split at made
      · contradiction
      · cases made
        exact ⟨rfl, rfl, rfl⟩
  · rintro ⟨rfl, rfl, sort⟩
    cases query with
    | mk target pillar targetType target_ne pillar_ne =>
        cases sort
        simp [make, target_ne, pillar_ne]

end Query

end PillarLookup
