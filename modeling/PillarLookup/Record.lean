import PillarLookup.Json.Reader

/-!
# Records

An attempt yields records: an optional status and a JSON text each. The record of
the minions that did not answer is told by what it holds, an object whose key
`Failed` has a list of strings; every other record must hold an object of minions
and their values.
-/

namespace PillarLookup

structure Record where
  status : Option Int
  payload : String
deriving DecidableEq, Repr

/-- The minions that were asked and never answered. -/
structure FailureRecord where
  status : Option Int
  failed : List String
deriving DecidableEq, Repr

/-- The minions that returned a value. -/
structure ValueRecord where
  status : Option Int
  returns : Members Json
deriving Repr

inductive Response where
  | value (record : ValueRecord)
  | failure (record : FailureRecord)
deriving Repr

/-- The status of a record when nothing went wrong; a missing status is another. -/
def successStatus : Int := 0

def incompleteStatus : Int := 1

/-- The key of a failure record. -/
def failedKey : String := "Failed"

namespace Record

def ofReturns (status : Option Int) (returns : Members Json) : Record :=
  ⟨status, (Json.obj returns).text⟩

def ofFailed (status : Option Int) (failed : List String) : Record :=
  ⟨status, (Json.obj [(failedKey, .arr (failed.map .str))]).text⟩

/-- The only record of an attempt that did not complete. -/
def incomplete (payload : String) : Record :=
  ⟨some incompleteStatus, payload⟩

def isSuccess (record : Record) : Bool :=
  record.status == some successStatus

end Record

namespace FailureRecord

/-- The ids under the key `Failed`, if that holds a list of strings. -/
def failedIn? (value : Json) : Option (List String) :=
  match value.get? failedKey with
  | some (.arr items) => Json.strings? items
  | _ => none

def ofRecord? (record : Record) : Option FailureRecord :=
  match Json.decode record.payload with
  | .error _ => none
  | .ok value => (failedIn? value).map fun failed => ⟨record.status, failed⟩

def isSuccess (record : FailureRecord) : Bool :=
  record.status == some successStatus

end FailureRecord

def ValueRecord.ofRecord (record : Record) : Except Json.ReadError ValueRecord :=
  match Json.decodeMap record.payload with
  | .error error => .error error
  | .ok returns => .ok ⟨record.status, returns⟩

def Response.ofRecord (record : Record) : Except Json.ReadError Response :=
  match FailureRecord.ofRecord? record with
  | some found => .ok (.failure found)
  | none =>
      match ValueRecord.ofRecord record with
      | .error error => .error error
      | .ok read => .ok (.value read)

def Record.isFailureRecord (record : Record) : Bool :=
  (FailureRecord.ofRecord? record).isSome

end PillarLookup
