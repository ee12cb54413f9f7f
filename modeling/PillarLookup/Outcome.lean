import PillarLookup.Record

/-!
# Outcomes

The records of one attempt reduce to the value of the only minion that answered,
or to one failure. The records are paired by what they hold and not by their
order, and the failure record is judged before the value record has to decode.
-/

namespace PillarLookup

inductive Failure where
  | emptyResponse
  | tooManyResults (count : Nat)
  /-- A failure record that signals an error; the value record's status is forwarded. -/
  | remote (status valueStatus : Option Int) (failed : List String)
  | undecodable (error : Json.ReadError)
  /-- Two records that are no pair of a value and a failure record. -/
  | malformed (first second : String)
  | noTargets
  | ambiguous (targets : List String)
  | client (message : String)
deriving DecidableEq, Repr

inductive FailureKind where
  | emptyResponse
  | tooManyResults
  | remoteError
  | decodingError
  | noTargetsMatched
  | ambiguousTarget
  | client
deriving DecidableEq, Repr

namespace Failure

def kind : Failure → FailureKind
  | .emptyResponse => .emptyResponse
  | .tooManyResults _ => .tooManyResults
  | .remote .. => .remoteError
  | .undecodable _ => .decodingError
  | .malformed .. => .decodingError
  | .noTargets => .noTargetsMatched
  | .ambiguous _ => .ambiguousTarget
  | .client _ => .client

/-- The status the process exits with. -/
def exitCode : Failure → Int
  | .remote _ valueStatus _ => valueStatus.getD 1
  | _ => 1

def describeStatus : Option Int → String
  | some status => toString status
  | none => "none"

def describeFailed (failed : List String) : String :=
  if failed.isEmpty then "" else ", minions did not respond: " ++ String.intercalate ", " failed

def message : Failure → String
  | .emptyResponse => "Empty response"
  | .tooManyResults count => "Too many results: expected 2 records, got " ++ toString count
  | .remote status _ failed =>
      "Error code returned: " ++ describeStatus status ++ describeFailed failed
  | .undecodable error => "Unable to decode response: " ++ error.message
  | .malformed first second =>
      "Unable to decode response: expected a value record and a failure record, got " ++
        first ++ " and " ++ second
  | .noTargets => "no minions selected"
  | .ambiguous targets => "Too many minions selected: " ++ String.intercalate ", " targets
  | .client message => "Unable to query the Salt API: " ++ message

end Failure

abbrev Outcome := Except Failure Json

namespace Outcome

/-- The value of the only minion in `returns`. -/
def ofReturns : Members Json → Outcome
  | [] => .error .noTargets
  | [(_, value)] => .ok value
  | returns => .error (.ambiguous returns.keys)

/-- Judge a failure record together with the other record of the pair. -/
def ofPair (failure : FailureRecord) (other : Record) : Outcome :=
  if failure.isSuccess then
    match ValueRecord.ofRecord other with
    | .error error => .error (.undecodable error)
    | .ok value => ofReturns value.returns
  else .error (.remote failure.status other.status failure.failed)

/-- Reduce the records of one attempt. -/
def ofRecords : List Record → Outcome
  | [] => .error .emptyResponse
  | [_] => .error .emptyResponse
  | [first, second] =>
      match FailureRecord.ofRecord? first, FailureRecord.ofRecord? second with
      | none, some failure => ofPair failure first
      | some failure, none => ofPair failure second
      | _, _ => .error (.malformed first.payload second.payload)
  | records => .error (.tooManyResults records.length)

end Outcome

end PillarLookup
