import Mathlib.Data.Set.List
import PillarLookup.Proofs.Classification

/-!
# Records that are written and read

A record of returns and a record of silent minions are written as JSON and classified by
what stands there. Returns read back as they were unless they are nested too deep, and
are of the class of values unless they look like a failure record. A failure record reads
back whatever the ids in it are, and keeps its part in every pair.
-/

namespace PillarLookup

theorem Json.exists_eq_map_str_iff {items : List Json} :
    (∃ strings : List String, items = strings.map .str) ↔
      ∀ item ∈ items, ∃ text, item = .str text := by
  have range := Set.ext_iff.mp (Set.range_list_map Json.str) items
  simpa only [Set.mem_range, Set.mem_ofPred_eq, eq_comm] using range

/-! ## Returns -/

section Returns

variable {status : Option Int} {returns : Members Json}

/-- Integral returns read back exactly if they are well-formed and not nested too deep. -/
theorem holds_ofReturns_iff (whole : Json.integral (.obj returns) = true) :
    (Record.ofReturns status returns).Holds returns ↔
      Json.WellFormed (.obj returns) ∧ Json.depth (.obj returns) ≤ Json.nestingLimit := by
  constructor
  · exact Json.wellFormed_of_decode
  · intro bounds
    exact Json.decode_text (Json.regular_iff.mpr bounds) whole

theorem holds_ofReturns (ascending : returns.Ascending)
    (each : ∀ entry ∈ returns, Json.integral entry.2 = true ∧ Json.WellFormed entry.2 ∧
      Json.depth entry.2 ≤ 126) :
    (Record.ofReturns status returns).Holds returns := by
  have whole : Json.integral (.obj returns) = true := by
    rw [Json.integral_obj, List.all_eq_true]
    exact fun entry member => (each entry member).1
  refine (holds_ofReturns_iff whole).mpr ⟨?_, ?_⟩
  · rw [Json.wellFormed_obj]
    exact ⟨ascending, fun entry member => (each entry member).2.1⟩
  · exact Json.depth_obj_le_iff.mpr fun entry member => (each entry member).2.2

theorem holds_ofReturns_str (status : Option Int) (minion text : String) :
    (Record.ofReturns status [(minion, .str text)]).Holds [(minion, .str text)] := by
  apply holds_ofReturns (List.pairwise_singleton _ _)
  intro entry member
  obtain rfl := List.mem_singleton.mp member
  exact ⟨rfl, Json.wellFormed_str text, by simp⟩

/--
Returns that hold integers for numbers and are nested at most 126 deep read back as they
were, whatever the minions are called. They are of the class of values unless the key of
failure records has a list of strings alone; then they are a failure record with that
list. A minion that returned a string is never mistaken.
-/
theorem written_returns_read_back (status : Option Int) {returns : Members Json}
    (ascending : returns.Ascending)
    (each : ∀ entry ∈ returns, Json.integral entry.2 = true ∧ Json.WellFormed entry.2 ∧
      Json.depth entry.2 ≤ 126) :
    let record := Record.ofReturns status returns
    ValueRecord.ofRecord record = .ok ⟨status, returns⟩ ∧
    (Response.ofRecord record = .ok (.value ⟨status, returns⟩) ↔
      ¬ ∃ items, returns.get? failedKey = some (.arr items) ∧
        ∀ item ∈ items, ∃ text, item = .str text) ∧
    (∀ failed : List String, returns.get? failedKey = some (.arr (failed.map .str)) →
      Response.ofRecord record = .ok (.failure ⟨status, failed⟩)) ∧
    ∀ minion text,
      Response.ofRecord (.ofReturns status [(minion, .str text)]) =
        .ok (.value ⟨status, [(minion, .str text)]⟩) := by
  have holds : (Record.ofReturns status returns).Holds returns := holds_ofReturns ascending each
  refine ⟨ValueRecord.ofRecord_of_holds holds, ?_, ?_, ?_⟩
  · rw [Response.ofRecord_eq_value_iff, holds.isFailure_iff]
    simp only [← Json.exists_eq_map_str_iff]
    constructor
    · rintro ⟨-, -, other⟩ ⟨items, held, failed, rfl⟩
      exact other ⟨failed, held⟩
    · intro other
      exact ⟨rfl, holds, fun ⟨failed, held⟩ => other ⟨_, held, failed, rfl⟩⟩
  · intro failed held
    exact Response.ofRecord_of_lists ⟨returns, holds, held⟩
  · intro minion text
    have alone := holds_ofReturns_str status minion text
    rw [Response.ofRecord_eq_value_iff, alone.isFailure_iff]
    refine ⟨rfl, alone, ?_⟩
    rintro ⟨failed, held⟩
    rw [Members.get?] at held
    split at held <;> cases held

end Returns

/-! ## Returns at the limit -/

namespace Tower

/-- Lists within lists, around a text that needs escapes. -/
def tower : Nat → Json
  | 0 => .str "\x00\"\\é"
  | levels + 1 => .arr [tower levels]

theorem tower_measures (levels : Nat) :
    Json.integral (tower levels) = true ∧ Json.WellFormed (tower levels) ∧
      Json.depth (tower levels) = levels := by
  induction levels with
  | zero => exact ⟨rfl, Json.wellFormed_str _, Json.depth_str _⟩
  | succ levels ih =>
      obtain ⟨whole, wellFormed, depth⟩ := ih
      refine ⟨?_, ?_, ?_⟩
      · simp [tower, whole]
      · simp [tower, wellFormed]
      · simp [tower, Json.depth, Json.depthOfItems, depth]

def returns : Members Json :=
  [("Failed", tower 126), ("web\n", .int 18446744073709551615)]

theorem each_returned : ∀ entry ∈ returns, Json.integral entry.2 = true ∧
    Json.WellFormed entry.2 ∧ Json.depth entry.2 ≤ 126 := by
  intro entry member
  rcases List.mem_pair.mp member with rfl | rfl
  · obtain ⟨whole, wellFormed, depth⟩ := tower_measures 126
    exact ⟨whole, wellFormed, Nat.le_of_eq depth⟩
  · exact ⟨rfl, (Json.wellFormed_int _).mpr (by decide), by simp⟩

/-- As deep as can be, under the key of failure records. -/
theorem returns_are_values :
    returns.Ascending ∧
    (∀ entry ∈ returns, Json.integral entry.2 = true ∧ Json.WellFormed entry.2 ∧
      Json.depth entry.2 ≤ 126) ∧
    Response.ofRecord (.ofReturns none returns) = .ok (.value ⟨none, returns⟩) := by
  have less : "Failed" < "web\n" := by decide
  have ascending : returns.Ascending := List.pairwise_pair.mpr less
  obtain ⟨-, value, -, -⟩ := written_returns_read_back none ascending each_returned
  refine ⟨ascending, each_returned, value.mpr ?_⟩
  rintro ⟨items, held, strings⟩
  obtain rfl : [tower 125] = items := by
    injection held with list
    injection list
  obtain ⟨text, same⟩ := strings (tower 125) List.mem_cons_self
  cases same

end Tower

/-! ## Silent minions -/

theorem lists_ofFailed (status : Option Int) (failed : List String) :
    (Record.ofFailed status failed).Lists failed :=
  (ofRecord?_eq_some_iff.mp (ofRecord?_ofFailed status failed)).1

namespace Outcome

/-- What an outcome is without its details: the value, or the kind of failure. -/
def verdict (outcome : Outcome) : Except FailureKind Json :=
  outcome.mapError Failure.kind

/-- A payload comes to a value if it is an object with that value for its only member. -/
theorem ofPayload_eq_ok_iff {payload : String} {value : Json} :
    ofPayload payload = .ok value ↔
      ∃ minion, Json.decode payload = .ok (.obj [(minion, value)]) := by
  simp only [← Json.decodeMap_eq_ok_iff]
  rw [ofPayload]
  cases Json.decodeMap payload with
  | error error => simp
  | ok returns => simp [ofReturns_eq_ok_iff]

end Outcome

section Pairs

variable {failure other : Record} {failed : List String} {records : List Record}
  (pair : records = [failure, other] ∨ records = [other, failure])
  (lists : failure.Lists failed)

include pair lists

/-- Beside a failure record another one makes the pair malformed. -/
theorem ofRecords_of_two_failures (fails : other.IsFailure) :
    ∃ first second, records = [first, second] ∧
      Outcome.ofRecords records = .error (.malformed first.payload second.payload) := by
  have alike : failure.IsFailure ↔ other.IsFailure := iff_of_true ⟨failed, lists⟩ fails
  rcases pair with rfl | rfl
  · exact ⟨failure, other, rfl, ofRecords_of_alike alike⟩
  · exact ⟨other, failure, rfl, ofRecords_of_alike alike.symm⟩

/-- Beside a failure record any other one is judged for its payload, if at all. -/
theorem ofRecords_of_one_failure (value : ¬ other.IsFailure) :
    Outcome.ofRecords records =
      if failure.status = some 0 then Outcome.ofPayload other.payload
      else .error (.remote failure.status other.status failed) := by
  rw [ofRecords_of_pair pair lists value, ofPair_eq]

/-- A value that a pair comes to is in the record that is no failure record. -/
theorem exists_holds_of_ofRecords {value : Json} (outcome : Outcome.ofRecords records = .ok value) :
    ∃ minion, other.Holds [(minion, value)] := by
  by_cases fails : other.IsFailure
  · obtain ⟨first, second, -, malformed⟩ := ofRecords_of_two_failures pair lists fails
    rw [malformed] at outcome
    cases outcome
  · rw [ofRecords_of_one_failure pair lists fails] at outcome
    split at outcome
    · exact Outcome.ofPayload_eq_ok_iff.mp outcome
    · cases outcome

/-- The status of the failure record and the payload of the other one decide. -/
theorem verdict_ofRecords {again also : Record} {ids : List String} {others : List Record}
    (others_pair : others = [again, also] ∨ others = [also, again]) (again_lists : again.Lists ids)
    (status : again.status = failure.status) (payload : also.payload = other.payload) :
    (Outcome.ofRecords others).verdict = (Outcome.ofRecords records).verdict := by
  by_cases fails : other.IsFailure
  · have still := isFailure_of_payload payload.symm fails
    obtain ⟨_, _, -, malformed⟩ := ofRecords_of_two_failures pair lists fails
    obtain ⟨_, _, -, shown⟩ := ofRecords_of_two_failures others_pair again_lists still
    rw [malformed, shown]
    rfl
  · have still := mt (isFailure_of_payload payload) fails
    rw [ofRecords_of_one_failure pair lists fails,
      ofRecords_of_one_failure others_pair again_lists still, status, payload]
    split <;> rfl

end Pairs

/--
A failure record reads back whatever its status and whatever the ids in it are, and it is
of the class of failures. Beside any other record it is never taken for the record of
values: the pair is malformed if the other one is a failure record too, and otherwise the
status and the other payload decide, a value being the only member in that payload. What
the ids are, and what the other status is, shows in the details of a remote error only.
-/
theorem written_failure_keeps_its_part (status : Option Int) (failed : List String) :
    FailureRecord.ofRecord? (.ofFailed status failed) = some ⟨status, failed⟩ ∧
    Response.ofRecord (.ofFailed status failed) = .ok (.failure ⟨status, failed⟩) ∧
    ∀ other records,
      records = [.ofFailed status failed, other] ∨ records = [other, .ofFailed status failed] →
      let outcome := Outcome.ofRecords records
      (other.IsFailure → ∃ first second, records = [first, second] ∧
        outcome = .error (.malformed first.payload second.payload)) ∧
      (¬ other.IsFailure →
        outcome = if status = some 0 then Outcome.ofPayload other.payload
          else .error (.remote status other.status failed)) ∧
      (∀ value, outcome = .ok value → ∃ minion, other.Holds [(minion, value)]) ∧
      (∀ ids again others, again.payload = other.payload →
        others = [.ofFailed status ids, again] ∨ others = [again, .ofFailed status ids] →
        (Outcome.ofRecords others).verdict = outcome.verdict) := by
  have lists := lists_ofFailed status failed
  refine ⟨ofRecord?_ofFailed status failed, Response.ofRecord_of_lists lists, ?_⟩
  intro other records pair
  refine ⟨?_, ?_, ?_, ?_⟩
  · intro fails
    exact ofRecords_of_two_failures pair lists fails
  · intro value
    exact ofRecords_of_one_failure pair lists value
  · intro value outcome
    exact exists_holds_of_ofRecords pair lists outcome
  · intro ids again others payload others_pair
    exact verdict_ofRecords pair lists others_pair (lists_ofFailed status ids) rfl payload

/-- Quotes, backslashes, control characters and repeated ids come back as they were. -/
example : FailureRecord.ofRecord? (.ofFailed none ["a\"b\\", "\x00é", "a\"b\\"]) =
    some ⟨none, ["a\"b\\", "\x00é", "a\"b\\"]⟩ := by cbv

end PillarLookup
