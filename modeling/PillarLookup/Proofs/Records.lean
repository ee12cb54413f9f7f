import PillarLookup.Proofs.Json.RoundTrip
import PillarLookup.SaltApi.Client

/-!
# From records to an outcome

A pair of records is written as JSON and read again before it is judged. Nothing
is lost on the way as long as the values are integral. The one thing that can go
wrong is a minion named like the key of a failure record.
-/

namespace PillarLookup

open Json (Regular)

namespace Json

theorem strings?_eq_some_iff {items : List Json} {strings : List String} :
    strings? items = some strings ↔ items = strings.map .str := by
  rw [strings?]
  induction items generalizing strings with
  | nil => cases strings <;> simp
  | cons item rest ih =>
      rw [List.mapM_cons]
      cases item with
      | str value =>
          change ((rest.mapM asString?).bind fun others => some (value :: others)) = _ ↔ _
          rw [Option.bind_eq_some_iff]
          constructor
          · rintro ⟨others, read, made⟩
            cases made
            rw [ih.mp read]
            rfl
          · intro same
            cases strings with
            | nil => cases same
            | cons first others =>
                obtain ⟨head, tail⟩ := List.cons.inj same
                cases head
                exact ⟨others, ih.mpr tail, rfl⟩
      | _ => cases strings <;> simp [asString?]

theorem integral_strings (strings : List String) :
    integral (.arr (strings.map .str)) = true := by
  rw [integral_arr, List.all_map, List.all_eq_true]
  intro string _
  rfl

end Json

/-! ## Reading the records of a pair -/

section Pair

variable (status : Option Int)

theorem ofRecord?_ofFailed (failed : List String) :
    FailureRecord.ofRecord? (.ofFailed status failed) = some ⟨status, failed⟩ := by
  have regular : Regular 2 (.obj [(failedKey, .arr (failed.map .str))]) := by
    simp [Members.Ascending]
  have whole : Json.integral (.obj [(failedKey, .arr (failed.map .str))]) = true := by
    rw [Json.integral_obj, List.all_cons, Json.integral_strings]
    rfl
  have decoded := Json.decode_text (regular.mono (by decide)) whole
  have strings : Json.strings? (failed.map .str) = some failed :=
    Json.strings?_eq_some_iff.mpr rfl
  unfold FailureRecord.ofRecord? Record.ofFailed
  rw [decoded]
  simp [FailureRecord.failedIn?, Json.get?, Json.asObject?, Members.get?, strings]

variable {returns : Members Json} (regular : Regular Json.nestingLimit (.obj returns))
  (whole : Json.integral (.obj returns) = true)

include regular whole

theorem ofRecord?_ofReturns :
    FailureRecord.ofRecord? (.ofReturns status returns) =
      (FailureRecord.failedIn? (.obj returns)).map fun failed => ⟨status, failed⟩ := by
  unfold FailureRecord.ofRecord? Record.ofReturns
  rw [Json.decode_text regular whole]

theorem ofRecord_ofReturns :
    ValueRecord.ofRecord (.ofReturns status returns) = .ok ⟨status, returns⟩ := by
  unfold ValueRecord.ofRecord Record.ofReturns
  rw [Json.decodeMap_text regular whole]

end Pair

/-! ## Judging a pair -/

theorem ofReturns_eq_ok_iff {returns : Members Json} {value : Json} :
    Outcome.ofReturns returns = .ok value ↔ ∃ minion, returns = [(minion, value)] := by
  unfold Outcome.ofReturns
  split
  · simp
  · rename_i minion only
    simp
  · rename_i none several
    simp only [reduceCtorEq, false_iff, not_exists]
    exact fun minion => several minion value

theorem failedIn?_eq_some_iff {value : Json} {failed : List String} :
    FailureRecord.failedIn? value = some failed ↔
      value.get? failedKey = some (.arr (failed.map .str)) := by
  rw [FailureRecord.failedIn?]
  cases value.get? failedKey with
  | none => simp
  | some found =>
      cases found with
      | arr items => simp [Json.strings?_eq_some_iff]
      | _ => simp

theorem failedIn?_eq_none_iff {minion : String} {value : Json} :
    FailureRecord.failedIn? (.obj [(minion, value)]) = none ↔
      ¬ (minion = failedKey ∧ ∃ failed : List String, value = .arr (failed.map .str)) := by
  simp only [Option.eq_none_iff_forall_ne_some, ne_eq, failedIn?_eq_some_iff, Json.get?,
    Json.asObject?, Option.bind_some, Members.get?]
  by_cases same : failedKey = minion
  · simp [same]
  · simp [same, Ne.symm same]

namespace SaltApi

variable {returns : Members Json} {missing : List String}
  (regular : Regular Json.nestingLimit (.obj returns))
  (whole : Json.integral (.obj returns) = true)

include regular whole

/-- A map that passes for a failure record itself makes no pair with the other record. -/
theorem ofRecords_of_passes {failed : List String}
    (passes : FailureRecord.failedIn? (.obj returns) = some failed) :
    Outcome.ofRecords (Collected.records ⟨returns, missing⟩) =
      .error (.malformed (Json.obj returns).text
        (Json.obj [(failedKey, .arr (missing.map .str))]).text) := by
  unfold Collected.records Outcome.ofRecords
  dsimp only
  rw [ofRecord?_ofReturns _ regular whole, ofRecord?_ofFailed, passes]
  rfl

/-- Any other map is judged by what is missing first, and then by how many returned. -/
theorem ofRecords_of_harmless
    (harmless : FailureRecord.failedIn? (.obj returns) = none) :
    Outcome.ofRecords (Collected.records ⟨returns, missing⟩) =
      if missing = [] then Outcome.ofReturns returns
      else .error (.remote (some incompleteStatus) (some successStatus) missing) := by
  unfold Collected.records Outcome.ofRecords
  dsimp only
  rw [ofRecord?_ofReturns _ regular whole, ofRecord?_ofFailed, harmless]
  simp only [Option.map_none, Outcome.ofPair, ofRecord_ofReturns _ regular whole]
  by_cases complete : missing = []
  · have accepted : FailureRecord.isSuccess ⟨some successStatus, missing⟩ = true := rfl
    rw [if_pos complete, if_pos complete, accepted, if_pos rfl]
  · have refused : FailureRecord.isSuccess ⟨some incompleteStatus, missing⟩ = false := rfl
    rw [if_neg complete, if_neg complete, refused]
    rfl

/--
The records of a job come to a value exactly if no minion is missing and the only
one that returned anything does not pass for a failure record.
-/
theorem ofRecords_records_eq_ok_iff {value : Json} :
    Outcome.ofRecords (Collected.records ⟨returns, missing⟩) = .ok value ↔
      missing = [] ∧ ∃ minion, returns = [(minion, value)] ∧
        ¬ (minion = failedKey ∧ ∃ failed : List String, value = .arr (failed.map .str)) := by
  cases passes : FailureRecord.failedIn? (.obj returns) with
  | some failed =>
      rw [ofRecords_of_passes regular whole passes]
      simp only [reduceCtorEq, false_iff]
      rintro ⟨-, minion, rfl, harmless⟩
      rw [failedIn?_eq_none_iff.mpr harmless] at passes
      cases passes
  | none =>
      rw [ofRecords_of_harmless regular whole passes]
      by_cases complete : missing = []
      · rw [if_pos complete, ofReturns_eq_ok_iff]
        refine ⟨?_, fun ⟨_, minion, only, _⟩ => ⟨minion, only⟩⟩
        rintro ⟨minion, rfl⟩
        exact ⟨complete, minion, rfl, failedIn?_eq_none_iff.mp passes⟩
      · rw [if_neg complete]
        simp [complete]

end SaltApi

end PillarLookup
