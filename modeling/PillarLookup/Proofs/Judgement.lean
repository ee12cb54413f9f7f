import PillarLookup.Outcome
import PillarLookup.Proofs.Json.Entries
import PillarLookup.Proofs.Records

/-!
# How records are judged

What the records of one attempt come to, by what their payloads hold. Their number
counts first, then whether exactly one of two is a failure record, then the status of
that one, and only then the other record: whether it is an object, and how many
different keys there are in its text.
-/

namespace PillarLookup

namespace Record

/-- The payload is an object with a list of strings under the key of failure records. -/
def Lists (record : Record) (failed : List String) : Prop :=
  ∃ members : Members Json, Json.decode record.payload = .ok (.obj members) ∧
    members.get? failedKey = some (.arr (failed.map .str))

/-- A record that lists minions which have not answered. -/
def IsFailure (record : Record) : Prop :=
  ∃ failed, record.Lists failed

end Record

section Reading

variable {record : Record} {found : FailureRecord} {failed : List String}

theorem failedIn?_eq_some_iff_obj {value : Json} :
    FailureRecord.failedIn? value = some failed ↔
      ∃ members : Members Json, value = .obj members ∧
        members.get? failedKey = some (.arr (failed.map .str)) := by
  rw [failedIn?_eq_some_iff]
  cases value with
  | obj members => simp [Json.get?, Json.asObject?]
  | _ => simp [Json.get?, Json.asObject?]

theorem ofRecord?_eq_some_iff :
    FailureRecord.ofRecord? record = some found ↔
      record.Lists found.failed ∧ found.status = record.status := by
  rw [FailureRecord.ofRecord?, Record.Lists]
  cases Json.decode record.payload with
  | error error => simp
  | ok value =>
      dsimp only
      rw [Option.map_eq_some_iff]
      constructor
      · rintro ⟨failed, held, rfl⟩
        obtain ⟨members, rfl, key⟩ := failedIn?_eq_some_iff_obj.mp held
        exact ⟨⟨members, rfl, key⟩, rfl⟩
      · rintro ⟨⟨members, object, key⟩, status⟩
        cases object
        refine ⟨found.failed, failedIn?_eq_some_iff_obj.mpr ⟨members, rfl, key⟩, ?_⟩
        rw [← status]

theorem ofRecord?_of_lists (lists : record.Lists failed) :
    FailureRecord.ofRecord? record = some ⟨record.status, failed⟩ :=
  ofRecord?_eq_some_iff.mpr ⟨lists, rfl⟩

theorem ofRecord?_eq_none_iff : FailureRecord.ofRecord? record = none ↔ ¬ record.IsFailure := by
  rw [Option.eq_none_iff_forall_ne_some]
  constructor
  · rintro other ⟨failed, lists⟩
    exact other _ (ofRecord?_of_lists lists)
  · rintro other found read
    exact other ⟨found.failed, (ofRecord?_eq_some_iff.mp read).1⟩

theorem isFailure_of_payload {other : Record} (same : record.payload = other.payload)
    (fails : record.IsFailure) : other.IsFailure := by
  obtain ⟨failed, lists⟩ := fails
  rw [Record.Lists, same] at lists
  exact ⟨failed, lists⟩

end Reading

/-! ## Pairs -/

section Pairs

variable {first second failure other : Record} {failed : List String}

/-- Two failure records, or none, are no pair. -/
theorem ofRecords_of_alike (alike : first.IsFailure ↔ second.IsFailure) :
    Outcome.ofRecords [first, second] = .error (.malformed first.payload second.payload) := by
  rw [Outcome.ofRecords]
  by_cases fails : first.IsFailure
  · obtain ⟨failed, lists⟩ := fails
    obtain ⟨others, also⟩ := alike.mp ⟨failed, lists⟩
    rw [ofRecord?_of_lists lists, ofRecord?_of_lists also]
  · rw [ofRecord?_eq_none_iff.mpr fails, ofRecord?_eq_none_iff.mpr (mt alike.mpr fails)]

/-- A failure record is judged with the other one, on whichever side it stands. -/
theorem ofRecords_of_pair {records : List Record}
    (pair : records = [failure, other] ∨ records = [other, failure])
    (lists : failure.Lists failed) (value : ¬ other.IsFailure) :
    Outcome.ofRecords records = Outcome.ofPair ⟨failure.status, failed⟩ other := by
  have found := ofRecord?_of_lists lists
  have none := ofRecord?_eq_none_iff.mpr value
  rcases pair with rfl | rfl
  · rw [Outcome.ofRecords, found, none]
  · rw [Outcome.ofRecords, found, none]

theorem ofPair_of_failed {failure : FailureRecord} (failed : failure.status ≠ some 0) :
    Outcome.ofPair failure other =
      .error (.remote failure.status other.status failure.failed) := by
  have refused : failure.isSuccess = false := by
    rw [FailureRecord.isSuccess, beq_eq_false_iff_ne]
    exact failed
  rw [Outcome.ofPair, refused, if_neg Bool.false_ne_true]

/-- After a success the payload of the other record decides alone. -/
theorem ofPair_of_success {failure : FailureRecord} (success : failure.status = some 0) :
    Outcome.ofPair failure other =
      match Json.decodeMap other.payload with
      | .error error => .error (.undecodable error)
      | .ok returns => Outcome.ofReturns returns := by
  have accepted : failure.isSuccess = true := by
    rw [FailureRecord.isSuccess, success]
    rfl
  rw [Outcome.ofPair, accepted, if_pos rfl, ValueRecord.ofRecord]
  cases Json.decodeMap other.payload <;> rfl

end Pairs

/-! ## Entries -/

section Entries

variable {entries : List (String × Json)}

/-- Several keys are named in their order, each of them once. -/
theorem ofReturns_of_several {targets : List String}
    (ascending : targets.Pairwise fun first second => first < second)
    (listed : ∀ target, target ∈ targets ↔ target ∈ entries.map (·.1))
    (several : 2 ≤ targets.length) :
    Outcome.ofReturns (Members.ofList entries) = .error (.ambiguous targets) := by
  have keys := Members.keys_ofList_eq ascending listed
  have length : (Members.ofList entries).length = targets.length := by
    rw [← keys, Members.keys, List.length_map]
  rw [← length] at several
  rw [← keys]
  match Members.ofList entries, several with
  | first :: second :: rest, _ => rfl

/-- One key, however often, stands for its last value. -/
theorem ofReturns_of_only {target : String} {earlier : List (String × Json)} (value : Json)
    (same : ∀ entry ∈ earlier, entry.1 = target) :
    Outcome.ofReturns (Members.ofList (earlier ++ [(target, value)])) = .ok value := by
  rw [Members.ofList_of_same_key value same]
  rfl

end Entries

/-- A remote error is the only failure that forwards a status. -/
theorem exitCode_of_not_remote {failure : Failure}
    (other : ∀ status valueStatus failed, failure ≠ .remote status valueStatus failed) :
    failure.exitCode = 1 := by
  cases failure with
  | remote status valueStatus failed => exact absurd rfl (other status valueStatus failed)
  | _ => rfl

/-! ## The table -/

/--
What a payload comes to if the failure record is a success: the fault with which it
decodes, unless it is an object; then nothing, several keys or the value of the only
key, by the entries in the text.
-/
structure Weighed (payload : String) (outcome : Outcome) : Prop where
  undecodable : ∀ error, Json.decodeMap payload = .error error →
    outcome = .error (.undecodable error)
  no_object_iff : (∃ error, Json.decodeMap payload = .error error) ↔
    ∀ members, Json.decode payload ≠ .ok (.obj members)
  object : (∃ members, Json.decode payload = .ok (.obj members)) →
    ∃ entries, Json.decodeEntries payload = .ok entries
  none : Json.decodeEntries payload = .ok [] → outcome = .error .noTargets
  several : ∀ entries targets, Json.decodeEntries payload = .ok entries →
    (targets.Pairwise fun first second => first < second) →
    (∀ target, target ∈ targets ↔ target ∈ entries.map (·.1)) → 2 ≤ targets.length →
    outcome = .error (.ambiguous targets)
  only : ∀ earlier target value,
    Json.decodeEntries payload = .ok (earlier ++ [(target, value)]) →
    (∀ entry ∈ earlier, entry.1 = target) → outcome = .ok value

theorem weighed_ofPair {failure : FailureRecord} (record : Record)
    (success : failure.status = some 0) :
    Weighed record.payload (Outcome.ofPair failure record) := by
  have judged : ∀ entries, Json.decodeEntries record.payload = .ok entries →
      Outcome.ofPair failure record = Outcome.ofReturns (Members.ofList entries) := by
    intro entries decoded
    rw [ofPair_of_success success, Json.decodeMap_of_entries decoded]
  refine ⟨?_, ?_, ?_, judged [], ?_, ?_⟩
  · intro error failed
    rw [ofPair_of_success success, failed]
  · constructor
    · rintro ⟨error, failed⟩ members decoded
      rw [← Json.decodeMap_eq_ok_iff, failed] at decoded
      cases decoded
    · intro other
      cases decoded : Json.decodeMap record.payload with
      | error error => exact ⟨error, rfl⟩
      | ok members => exact absurd (Json.decodeMap_eq_ok_iff.mp decoded) (other members)
  · rintro ⟨members, decoded⟩
    rw [← Json.decodeMap_eq_ok_iff, Json.decodeMap_eq] at decoded
    cases read : Json.decodeEntries record.payload with
    | error error =>
        rw [read] at decoded
        cases decoded
    | ok entries => exact ⟨entries, rfl⟩
  · intro entries targets decoded ascending listed several
    rw [judged entries decoded]
    exact ofReturns_of_several ascending listed several
  · intro earlier target value decoded same
    rw [judged _ decoded]
    exact ofReturns_of_only value same

/--
The table by which records are judged. Fewer than two are empty, more than two too
many. Two of which not exactly one is a failure record are malformed, whether or not
they are JSON. Otherwise the status of the failure record counts first, and the status
of the other one becomes the exit code; after a success the payload of the other one
decides alone, whatever its status and whatever the failure record lists.
-/
theorem ofRecords_follows_table (records : List Record) :
    let outcome := Outcome.ofRecords records
    (records.length < 2 → outcome = .error .emptyResponse) ∧
    (2 < records.length → outcome = .error (.tooManyResults records.length)) ∧
    (∀ first second, records = [first, second] → (first.IsFailure ↔ second.IsFailure) →
      outcome = .error (.malformed first.payload second.payload)) ∧
    (∀ failure other failed, records = [failure, other] ∨ records = [other, failure] →
      failure.Lists failed → ¬ other.IsFailure →
      (failure.status ≠ some 0 →
        outcome = .error (.remote failure.status other.status failed)) ∧
      (failure.status = some 0 → Weighed other.payload outcome ∧
        ∀ accepted again listed, accepted.Lists listed → accepted.status = some 0 →
          again.payload = other.payload → Outcome.ofRecords [accepted, again] = outcome)) ∧
    (∀ failure, outcome = .error failure →
      (∀ status valueStatus failed, failure = .remote status valueStatus failed →
        failure.exitCode = valueStatus.getD 1) ∧
      ((∀ status valueStatus failed, failure ≠ .remote status valueStatus failed) →
        failure.exitCode = 1)) := by
  refine ⟨?_, ?_, ?_, ?_, ?_⟩
  · intro few
    match records, few with
    | [], _ => rfl
    | [record], _ => rfl
  · intro many
    match records, many with
    | first :: second :: third :: rest, _ => rfl
  · rintro first second rfl alike
    exact ofRecords_of_alike alike
  · intro failure other failed pair lists value
    rw [ofRecords_of_pair pair lists value]
    refine ⟨fun status => ofPair_of_failed status, fun success => ?_⟩
    refine ⟨weighed_ofPair other success, ?_⟩
    intro accepted again listed others status same
    have judged : ¬ again.IsFailure := mt (isFailure_of_payload same) value
    rw [ofRecords_of_pair (.inl rfl) others judged, ofPair_of_success status,
      ofPair_of_success success, same]
  · intro failure _
    constructor
    · rintro status valueStatus failed rfl
      rfl
    · exact exitCode_of_not_remote

/-- A remote error comes before a payload that is no JSON at all. -/
example : Outcome.ofRecords [⟨some 3, "db"⟩, .ofFailed (some 1) ["web"]] =
    .error (.remote (some 1) (some 3) ["web"]) := by cbv

/-- A minion that is written twice counts once. -/
example : Outcome.ofRecords
    [.ofFailed (some 0) [], ⟨none, "\x7b\"db\": 1, \"db\": 2\x7d"⟩] = .ok (.int 2) := by cbv

end PillarLookup
