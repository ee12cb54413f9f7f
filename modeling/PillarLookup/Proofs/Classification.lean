import PillarLookup.Proofs.Json.Depth
import PillarLookup.Proofs.Judgement

/-!
# How records are classified

A payload is read by two decoders: one takes a value of any kind, in which the list of
a failure record is looked for, the other one a map of minions. They agree on every
text, so that the class of a record is a matter of the object in its payload alone, and
so is its part in a pair, however the object is written.
-/

namespace PillarLookup

namespace Json

variable {text : String} {members : Members Json}

/-- The members of an object are what is left of the entries in its text. -/
theorem exists_entries_of_decode (decoded : decode text = .ok (.obj members)) :
    ∃ entries, decodeEntries text = .ok entries ∧ members = Members.ofList entries := by
  rw [← decodeMap_eq_ok_iff, decodeMap_eq] at decoded
  cases read : decodeEntries text with
  | error error =>
      rw [read] at decoded
      cases decoded
  | ok entries =>
      rw [read] at decoded
      cases decoded
      exact ⟨entries, rfl, rfl⟩

theorem decode_of_entries {entries : List (String × Json)}
    (read : decodeEntries text = .ok entries) :
    decode text = .ok (.obj (Members.ofList entries)) :=
  decodeMap_eq_ok_iff.mp (decodeMap_of_entries read)

/-- What is decoded is well-formed and opens no more levels than it may. -/
theorem wellFormed_of_decode {value : Json} (decoded : decode text = .ok value) :
    WellFormed value ∧ depth value ≤ nestingLimit :=
  regular_iff.mp ((yields_readValue nestingLimit).decodeWith decoded)

end Json

/-! ## Classes -/

namespace Record

/-- The payload is an object with these members. -/
def Holds (record : Record) (members : Members Json) : Prop :=
  Json.decode record.payload = .ok (.obj members)

theorem Holds.unique {record : Record} {members others : Members Json}
    (holds : record.Holds members) (also : record.Holds others) : members = others := by
  cases holds.symm.trans also
  rfl

end Record

section Classes

variable {record : Record} {members : Members Json} {failed : List String}

theorem ValueRecord.ofRecord_eq_ok_iff {value : ValueRecord} :
    ValueRecord.ofRecord record = .ok value ↔
      value.status = record.status ∧ record.Holds value.returns := by
  rw [Record.Holds, ← Json.decodeMap_eq_ok_iff, ValueRecord.ofRecord]
  obtain ⟨status, returns⟩ := value
  cases Json.decodeMap record.payload with
  | error error => simp
  | ok read => simp [eq_comm]

theorem ValueRecord.ofRecord_of_holds (holds : record.Holds members) :
    ValueRecord.ofRecord record = .ok ⟨record.status, members⟩ :=
  ValueRecord.ofRecord_eq_ok_iff.mpr ⟨rfl, holds⟩

theorem Response.ofRecord_of_lists (lists : record.Lists failed) :
    Response.ofRecord record = .ok (.failure ⟨record.status, failed⟩) := by
  rw [Response.ofRecord, ofRecord?_of_lists lists]

/-- What is no failure record is left to the decoder of maps. -/
theorem Response.ofRecord_of_not_isFailure (value : ¬ record.IsFailure) :
    Response.ofRecord record = (ValueRecord.ofRecord record).map .value := by
  rw [Response.ofRecord, ofRecord?_eq_none_iff.mpr value]
  cases ValueRecord.ofRecord record with
  | error error => rfl
  | ok read => rfl

/-- The list of a failure record stands in an object, which is a map as well. -/
theorem ValueRecord.exists_ofRecord_of_lists (lists : record.Lists failed) :
    ∃ value, ValueRecord.ofRecord record = .ok value ∧
      value.returns.get? failedKey = some (.arr (failed.map .str)) := by
  obtain ⟨members, holds, held⟩ := lists
  exact ⟨_, ValueRecord.ofRecord_of_holds holds, held⟩

theorem Record.Holds.isFailure_iff (holds : record.Holds members) :
    record.IsFailure ↔
      ∃ failed : List String, members.get? failedKey = some (.arr (failed.map .str)) := by
  constructor
  · rintro ⟨failed, others, also, held⟩
    obtain rfl := holds.unique also
    exact ⟨failed, held⟩
  · rintro ⟨failed, held⟩
    exact ⟨failed, members, holds, held⟩

theorem Response.ofRecord_eq_error_iff :
    (∃ error, Response.ofRecord record = .error error) ↔ ∀ members, ¬ record.Holds members := by
  by_cases fails : record.IsFailure
  · obtain ⟨failed, lists⟩ := fails
    rw [Response.ofRecord_of_lists lists]
    obtain ⟨members, holds, -⟩ := lists
    exact iff_of_false (by simp) fun none => none members holds
  · rw [Response.ofRecord_of_not_isFailure fails]
    cases read : ValueRecord.ofRecord record with
    | error error =>
        refine iff_of_true ⟨error, rfl⟩ fun members holds => ?_
        rw [ValueRecord.ofRecord_of_holds holds] at read
        cases read
    | ok value =>
        have holds := (ValueRecord.ofRecord_eq_ok_iff.mp read).2
        exact iff_of_false (by simp [Except.map]) fun none => none value.returns holds

theorem Response.ofRecord_eq_failure_iff {found : FailureRecord} :
    Response.ofRecord record = .ok (.failure found) ↔
      found.status = record.status ∧ record.Lists found.failed := by
  rw [and_comm, ← ofRecord?_eq_some_iff, Response.ofRecord]
  cases FailureRecord.ofRecord? record with
  | some failure => simp
  | none => cases ValueRecord.ofRecord record <;> simp

theorem Response.ofRecord_eq_value_iff {value : ValueRecord} :
    Response.ofRecord record = .ok (.value value) ↔
      value.status = record.status ∧ record.Holds value.returns ∧ ¬ record.IsFailure := by
  by_cases fails : record.IsFailure
  · obtain ⟨failed, lists⟩ := fails
    rw [Response.ofRecord_of_lists lists]
    exact iff_of_false (by simp) fun other => other.2.2 ⟨failed, lists⟩
  · rw [Response.ofRecord_of_not_isFailure fails, ← and_assoc,
      ← ValueRecord.ofRecord_eq_ok_iff, and_iff_left fails]
    cases ValueRecord.ofRecord record <;> simp [Except.map]

end Classes

/-! ## Pairs by their classes -/

/-- Two records are of one class, or one of them is the failure record of the pair. -/
theorem pair_cases (first second : Record) :
    (first.IsFailure ↔ second.IsFailure) ∨
      (∃ failed, first.Lists failed ∧ ¬ second.IsFailure) ∨
      ∃ failed, second.Lists failed ∧ ¬ first.IsFailure := by
  by_cases fails : first.IsFailure
  · by_cases also : second.IsFailure
    · exact .inl (iff_of_true fails also)
    · obtain ⟨failed, lists⟩ := fails
      exact .inr (.inl ⟨failed, lists, also⟩)
  · by_cases also : second.IsFailure
    · obtain ⟨failed, lists⟩ := also
      exact .inr (.inr ⟨failed, lists, fails⟩)
    · exact .inl (iff_of_false fails also)

/-- What a payload comes to beside a failure record that is a success. -/
def Outcome.ofPayload (payload : String) : Outcome :=
  match Json.decodeMap payload with
  | .error error => .error (.undecodable error)
  | .ok returns => ofReturns returns

/-- The status of a failure record decides whether the other payload is looked at. -/
theorem ofPair_eq (failure : FailureRecord) (other : Record) :
    Outcome.ofPair failure other =
      if failure.status = some 0 then Outcome.ofPayload other.payload
      else .error (.remote failure.status other.status failure.failed) := by
  by_cases success : failure.status = some 0
  · rw [if_pos success]
    exact ofPair_of_success success
  · rw [if_neg success]
    exact ofPair_of_failed success

theorem ofReturns_ne_malformed (returns : Members Json) (payload others : String) :
    Outcome.ofReturns returns ≠ .error (.malformed payload others) := by
  match returns with
  | [] => rintro ⟨⟩
  | [entry] => rintro ⟨⟩
  | entry :: next :: rest => rintro ⟨⟩

theorem ofPayload_ne_malformed (text payload others : String) :
    Outcome.ofPayload text ≠ .error (.malformed payload others) := by
  rw [Outcome.ofPayload]
  cases Json.decodeMap text with
  | error error => rintro ⟨⟩
  | ok returns => exact ofReturns_ne_malformed returns payload others

/-- A failure record and another one are never a malformed pair. -/
theorem ofPair_ne_malformed (failure : FailureRecord) (other : Record)
    (payload others : String) :
    Outcome.ofPair failure other ≠ .error (.malformed payload others) := by
  rw [ofPair_eq]
  split
  · exact ofPayload_ne_malformed other.payload payload others
  · rintro ⟨⟩

theorem ofRecords_of_many {records : List Record} (many : 2 < records.length) :
    Outcome.ofRecords records = .error (.tooManyResults records.length) := by
  match records, many with
  | first :: second :: third :: rest, _ => rfl

/-- Records that are no pair are judged by their number. -/
theorem ofRecords_eq_of_length {records others : List Record}
    (same : records.length = others.length) (noPair : records.length ≠ 2) :
    Outcome.ofRecords records = Outcome.ofRecords others := by
  rcases Nat.lt_or_gt_of_ne noPair with few | many
  · match records, others, same, few with
    | [], [], _, _ => rfl
    | [first], [second], _, _ => rfl
  · rw [ofRecords_of_many many, ofRecords_of_many (same ▸ many), same]

/-! ## Payloads written in another way -/

namespace Record

/-- The same record, or one with the same object in its payload, however that is written. -/
inductive Restates : Record → Record → Prop
  | same (record : Record) : Restates record record
  | object {status : Option Int} {text other : String} {members : Members Json}
      (decoded : Json.decode text = .ok (.obj members))
      (also : Json.decode other = .ok (.obj members)) :
      Restates ⟨status, text⟩ ⟨status, other⟩

namespace Restates

variable {first second : Record} {members : Members Json} {failed : List String}

/-- Texts restate each other if the last values of all keys are the same in them. -/
theorem of_entries {text other : String} {entries others : List (String × Json)}
    (read : Json.decodeEntries text = .ok entries)
    (also : Json.decodeEntries other = .ok others)
    (same : ∀ key, Members.lastOf entries key = Members.lastOf others key)
    (status : Option Int) : Restates ⟨status, text⟩ ⟨status, other⟩ := by
  have members := Members.ofList_eq_iff.mpr same
  exact .object (Json.decode_of_entries read) (members ▸ Json.decode_of_entries also)

theorem symm (restates : first.Restates second) : second.Restates first := by
  cases restates with
  | same => exact .same first
  | object decoded also => exact .object also decoded

theorem status_eq (restates : first.Restates second) : first.status = second.status := by
  cases restates with
  | same => rfl
  | object decoded also => rfl

theorem holds (restates : first.Restates second) (holds : first.Holds members) :
    second.Holds members := by
  cases restates with
  | same => exact holds
  | object decoded also =>
      cases decoded.symm.trans holds
      exact also

theorem lists (restates : first.Restates second) (lists : first.Lists failed) :
    second.Lists failed := by
  obtain ⟨members, holds, held⟩ := lists
  exact ⟨members, restates.holds holds, held⟩

theorem isFailure_iff (restates : first.Restates second) :
    first.IsFailure ↔ second.IsFailure := by
  constructor
  · rintro ⟨failed, lists⟩
    exact ⟨failed, restates.lists lists⟩
  · rintro ⟨failed, lists⟩
    exact ⟨failed, restates.symm.lists lists⟩

theorem decodeMap_eq (restates : first.Restates second) :
    Json.decodeMap first.payload = Json.decodeMap second.payload := by
  cases restates with
  | same => rfl
  | object decoded also =>
      rw [Json.decodeMap_eq_ok_iff.mpr decoded, Json.decodeMap_eq_ok_iff.mpr also]

theorem response_eq (restates : first.Restates second) :
    Response.ofRecord first = Response.ofRecord second := by
  by_cases fails : first.IsFailure
  · obtain ⟨failed, lists⟩ := fails
    rw [Response.ofRecord_of_lists lists, Response.ofRecord_of_lists (restates.lists lists),
      restates.status_eq]
  · have also := mt restates.isFailure_iff.mpr fails
    rw [Response.ofRecord_of_not_isFailure fails, Response.ofRecord_of_not_isFailure also,
      ValueRecord.ofRecord, ValueRecord.ofRecord, restates.decodeMap_eq, restates.status_eq]

theorem ofPair_eq (restates : first.Restates second) (failure : FailureRecord) :
    Outcome.ofPair failure first = Outcome.ofPair failure second := by
  rw [PillarLookup.ofPair_eq, PillarLookup.ofPair_eq, Outcome.ofPayload, Outcome.ofPayload,
    restates.decodeMap_eq, restates.status_eq]

end Restates

end Record

/-- A pair of which one record is a failure record is judged alike however it is written. -/
theorem ofRecords_of_restates {first second third fourth : Record}
    (restates : first.Restates third) (also : second.Restates fourth) :
    Outcome.ofRecords [third, fourth] = Outcome.ofRecords [first, second] ∨
      Outcome.ofRecords [first, second] =
          .error (.malformed first.payload second.payload) ∧
        Outcome.ofRecords [third, fourth] =
          .error (.malformed third.payload fourth.payload) := by
  rcases pair_cases first second with alike | ⟨failed, lists, value⟩ | ⟨failed, lists, value⟩
  -- Two records of one class are shown as they stand, and so in the way they are written.
  · have still : third.IsFailure ↔ fourth.IsFailure := by
      rw [← restates.isFailure_iff, ← also.isFailure_iff]
      exact alike
    exact .inr ⟨ofRecords_of_alike alike, ofRecords_of_alike still⟩
  · have still := mt also.isFailure_iff.mpr value
    left
    rw [ofRecords_of_pair (.inl rfl) lists value,
      ofRecords_of_pair (.inl rfl) (restates.lists lists) still, restates.status_eq,
      also.ofPair_eq]
  · have still := mt restates.isFailure_iff.mpr value
    left
    rw [ofRecords_of_pair (.inr rfl) lists value,
      ofRecords_of_pair (.inr rfl) (also.lists lists) still, also.status_eq,
      restates.ofPair_eq]

/-! ## The class of a record -/

/--
What the two decoders make of a record. It is a value record to the decoder of maps if
and only if the payload is an object, with the same members: the last value of every
key that stands in the text, each of them at most 126 levels deep. A failure record is
always one of these. The class of the record is an error unless the payload is an object,
and a failure if and only if that has a list of strings alone under the key of failure
records.
-/
structure Classified (record : Record) : Prop where
  value_iff : ∀ value, ValueRecord.ofRecord record = .ok value ↔
    value.status = record.status ∧ record.Holds value.returns
  last : ∀ members, record.Holds members →
    ∃ entries, Json.decodeEntries record.payload = .ok entries ∧
      ∀ key, members.get? key = Members.lastOf entries key
  within : ∀ members, record.Holds members →
    Json.WellFormed (.obj members) ∧ ∀ entry ∈ members, Json.depth entry.2 ≤ 126
  decodes : ∀ found, FailureRecord.ofRecord? record = some found →
    ∃ value, ValueRecord.ofRecord record = .ok value ∧
      value.returns.get? failedKey = some (.arr (found.failed.map .str))
  error_iff : (∃ error, Response.ofRecord record = .error error) ↔
    ∀ members, ¬ record.Holds members
  failure_iff : ∀ found, Response.ofRecord record = .ok (.failure found) ↔
    found.status = record.status ∧ ∃ members, record.Holds members ∧
      members.get? failedKey = some (.arr (found.failed.map .str))
  response_iff : ∀ value, Response.ofRecord record = .ok (.value value) ↔
    value.status = record.status ∧ record.Holds value.returns ∧
      ¬ ∃ failed : List String,
        value.returns.get? failedKey = some (.arr (failed.map .str))

theorem classified (record : Record) : Classified record := by
  constructor
  · intro value
    exact ValueRecord.ofRecord_eq_ok_iff
  · intro members holds
    obtain ⟨entries, read, rfl⟩ := Json.exists_entries_of_decode holds
    exact ⟨entries, read, Members.get?_ofList entries⟩
  · intro members holds
    obtain ⟨wellFormed, within⟩ := Json.wellFormed_of_decode holds
    exact ⟨wellFormed, Json.depth_obj_le_iff.mp within⟩
  · intro found read
    exact ValueRecord.exists_ofRecord_of_lists (ofRecord?_eq_some_iff.mp read).1
  · exact Response.ofRecord_eq_error_iff
  · intro found
    exact Response.ofRecord_eq_failure_iff
  · intro value
    rw [Response.ofRecord_eq_value_iff]
    constructor
    · rintro ⟨status, holds, other⟩
      exact ⟨status, holds, mt holds.isFailure_iff.mpr other⟩
    · rintro ⟨status, holds, other⟩
      exact ⟨status, holds, mt holds.isFailure_iff.mp other⟩

/--
The two decoders of a payload agree, whatever it is: the decoder of maps takes what the
decoder of values takes for an object, at any limit of levels, and leaves the same text
behind it. So both classify every record as its object asks for. Texts with the same
last values of all keys restate each other, whatever the order of the keys. Records that
restate each other are of one class, and an answer comes to the same outcome with either,
unless it is a malformed pair with both.
-/
theorem decoders_agree :
    (∀ levels text (members : Members Json) rest,
      Json.readMap Json.readValue levels text = .ok (members, rest) ↔
        Json.readValue levels text = .ok (.obj members, rest)) ∧
    (∀ record, Classified record) ∧
    (∀ status text other entries others, Json.decodeEntries text = .ok entries →
      Json.decodeEntries other = .ok others →
      (∀ key, Members.lastOf entries key = Members.lastOf others key) →
      Record.Restates ⟨status, text⟩ ⟨status, other⟩) ∧
    (∀ first second, Record.Restates first second →
      Response.ofRecord first = Response.ofRecord second) ∧
    (∀ records others, List.Forall₂ Record.Restates records others →
      Outcome.ofRecords others = Outcome.ofRecords records ∨
        ∃ first second third fourth, records = [first, second] ∧ others = [third, fourth] ∧
          Outcome.ofRecords records = .error (.malformed first.payload second.payload) ∧
          Outcome.ofRecords others = .error (.malformed third.payload fourth.payload)) := by
  refine ⟨?_, classified, ?_, ?_, ?_⟩
  · intro levels text members rest
    exact Json.readMap_eq_ok_iff
  · intro status text other entries others read also same
    exact .of_entries read also same status
  · intro first second restates
    exact restates.response_eq
  · intro records others restated
    by_cases pair : records.length = 2
    · obtain ⟨first, second, rfl⟩ := List.length_eq_two.mp pair
      cases restated with
      | cons restates more =>
          obtain ⟨fourth, _, also, rest, rfl⟩ := List.forall₂_cons_left_iff.mp more
          cases rest
          rcases ofRecords_of_restates restates also with same | ⟨malformed, still⟩
          · exact .inl same
          · exact .inr ⟨first, second, _, _, rfl, rfl, malformed, still⟩
    · exact .inl (ofRecords_eq_of_length restated.length_eq pair).symm

/-- Blanks, the order of keys, escapes and values that are replaced make no difference. -/
example : Record.Restates
    ⟨some 0, "\x7b\"w/1\":1,\"Failed\":[],\"Failed\":7\x7d"⟩
    ⟨some 0, "\x7b \"Failed\":7,\"w\\/1\":1\x7d"⟩ :=
  have decoded : Json.decode "\x7b\"w/1\":1,\"Failed\":[],\"Failed\":7\x7d" =
      .ok (.obj [("Failed", .int 7), ("w/1", .int 1)]) := by cbv
  .object decoded (by cbv)

end PillarLookup
