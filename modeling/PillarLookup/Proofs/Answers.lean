import Mathlib.Data.Nat.Find
import PillarLookup.Proofs.Extraction

/-!
# The answers that an extraction takes

A client that is asked the same query again and again gives a sequence of answers.
An extraction takes them one by one up to the first that is an error or has more
than one record, and no more of them than there are attempts. The last answer that
it takes decides alone; the ones before it show in the log only.
-/

namespace PillarLookup

/-- An answer after which nothing is asked any more: an error, or more than one record. -/
def IsFinal : Except String (List Record) → Prop
  | .error _ => True
  | .ok records => 1 < records.length

/-- What the last answer of an extraction comes to. -/
def conclude : Except String (List Record) → Outcome
  | .error message => .error (.client message)
  | .ok records => Outcome.ofRecords records

/-- The complaint about an answer that is not final. -/
def complaint (attempt : Nat) : Except String (List Record) → List Event
  | .error _ => []
  | .ok records =>
      if 1 < records.length then []
      else [.logged (Extraction.incompleteEntry attempt records.length)]

namespace Client

variable {σ : Type} (client : Client σ) (query : Query) (state : σ)

/-- The state of a client that was asked a query a number of times. -/
def stateAfter : Nat → σ
  | 0 => state
  | asked + 1 => (client.ask query (stateAfter asked)).state

/-- What a client answers that was asked the query a number of times before. -/
def answer (asked : Nat) : Except String (List Record) :=
  (client.ask query (client.stateAfter query state asked)).result

/-- The records that an attempt finds from the one before it. -/
def held : Nat → List Record
  | 0 => []
  | asked + 1 => (client.answer query state asked).toOption.getD []

/-- What an attempt adds to the trace; the entries of the client are in the middle. -/
def attemptEvents (most asked : Nat) : List Event :=
  .logged (Extraction.attemptEntry query (asked + 1) most) ::
    ((client.ask query (client.stateAfter query state asked)).events ++
      complaint (asked + 1) (client.answer query state asked))

/-- The last answer that up to `most` attempts take: the first final one, if it is among them. -/
structure IsLast (most last : Nat) : Prop where
  within : last < most
  earlier : ∀ asked < last, ¬ IsFinal (client.answer query state asked)
  ends : IsFinal (client.answer query state last) ∨ last + 1 = most

/-- The client together with the queries that it is asked. -/
def recorded (client : Client σ) : Client (σ × List Query) where
  ask query state :=
    let step := client.ask query state.1
    ⟨step.result, (step.state, state.2 ++ [query]), step.events⟩

theorem exists_isLast {most : Nat} (positive : 0 < most) :
    ∃ last, client.IsLast query state most last := by
  classical
  by_cases final : ∃ asked, asked < most ∧ IsFinal (client.answer query state asked)
  · obtain ⟨within, ends⟩ := Nat.find_spec final
    refine ⟨Nat.find final, within, ?_, .inl ends⟩
    intro asked less other
    exact Nat.find_min final less ⟨Nat.lt_trans less within, other⟩
  · refine ⟨most - 1, Nat.sub_lt positive Nat.one_pos, ?_, .inr (Nat.sub_add_cancel positive)⟩
    intro asked less other
    exact final ⟨asked, Nat.lt_of_lt_of_le less (Nat.sub_le most 1), other⟩

variable {client query state}

theorem stateAfter_recorded (asked : Nat) (queries : List Query) :
    client.recorded.stateAfter query (state, queries) asked =
      (client.stateAfter query state asked, queries ++ List.replicate asked query) := by
  induction asked with
  | zero => exact congrArg (Prod.mk state) (List.append_nil queries).symm
  | succ asked ih =>
      rw [stateAfter, ih, List.replicate_succ', ← List.append_assoc]
      rfl

theorem answer_recorded (asked : Nat) (queries : List Query) :
    client.recorded.answer query (state, queries) asked = client.answer query state asked := by
  rw [answer, stateAfter_recorded]
  rfl

theorem IsLast.recorded {most last : Nat} (isLast : client.IsLast query state most last)
    (queries : List Query) : client.recorded.IsLast query (state, queries) most last := by
  obtain ⟨within, earlier, ends⟩ := isLast
  constructor
  · exact within
  · intro asked less
    rw [answer_recorded]
    exact earlier asked less
  · rw [answer_recorded]
    exact ends

/-- An attempt is logged with its number and the total before the client has its say. -/
theorem logsOf_attemptEvents (most asked : Nat) :
    logsOf (client.attemptEvents query state most asked) =
      ⟨.debug, "pillar_model::extract",
        "Querying '" ++ query.pillar ++ "' on '" ++ query.target ++ "' (" ++
          query.targetType.name ++ "), attempt " ++ toString (asked + 1) ++ " of " ++
          toString most⟩ ::
        (logsOf (client.ask query (client.stateAfter query state asked)).events ++
          logsOf (complaint (asked + 1) (client.answer query state asked))) := by
  rw [← logsOf_append]
  rfl

end Client

theorem complaint_of_isFinal {answer : Except String (List Record)} (number : Nat)
    (final : IsFinal answer) : complaint number answer = [] := by
  cases answer with
  | error message => rfl
  | ok records => exact if_pos final

/-- The complaint about an attempt has its number and the count of the records. -/
theorem logsOf_complaint {records : List Record} (number : Nat) (few : records.length < 2) :
    logsOf (complaint number (.ok records)) =
      [⟨.warn, "pillar_model::extract",
        "Attempt " ++ toString number ++ " returned " ++ toString records.length ++
          " record(s), the response is incomplete"⟩] := by
  rw [complaint, if_neg (Nat.not_lt.mpr (Nat.le_of_lt_succ few))]
  rfl

/-! ## The attempts -/

namespace Extraction

open Client (IsLast)

variable {σ : Type} {client : Client σ} {query : Query} {state : σ} {most asked left : Nat}
  {last : List Record}

/-- An attempt with a final answer is the last one. -/
theorem attempts_of_isFinal (total : asked + (left + 1) = most)
    (final : IsFinal (client.answer query state asked)) :
    attempts client query most (left + 1) last (client.stateAfter query state asked) =
      ⟨(client.answer query state asked).mapError .client,
        client.stateAfter query state (asked + 1),
        client.attemptEvents query state most asked⟩ := by
  have number : most - left = asked + 1 := by omega
  rw [Client.answer] at final
  rw [attempts, Client.attemptEvents, Client.answer, number]
  cases result : (client.ask query (client.stateAfter query state asked)).result with
  | error message =>
      simp only [complaint, List.append_nil]
      rfl
  | ok records =>
      rw [result] at final
      have full : 1 < records.length := final
      simp only [complaint, if_pos full, List.append_nil]
      rfl

/-- After any other answer the attempts go on with what it has left. -/
theorem attempts_of_not_isFinal (total : asked + (left + 1) = most)
    (few : ¬ IsFinal (client.answer query state asked)) :
    attempts client query most (left + 1) last (client.stateAfter query state asked) =
      (attempts client query most left (client.held query state (asked + 1))
        (client.stateAfter query state (asked + 1))).after
          (client.attemptEvents query state most asked) := by
  have number : most - left = asked + 1 := by omega
  rw [Client.answer] at few
  rw [attempts, Client.attemptEvents, Client.held, Client.answer, number]
  cases result : (client.ask query (client.stateAfter query state asked)).result with
  | error message =>
      rw [result] at few
      exact absurd trivial few
  | ok records =>
      rw [result] at few
      have short : ¬ 1 < records.length := few
      simp only [complaint, if_neg short]
      rfl

/-- The attempts from the first final answer on, or from the end if there is none. -/
theorem attempts_of_earlier
    (earlier : ∀ index < asked, ¬ IsFinal (client.answer query state index))
    (within : asked + left = most) :
    attempts client query most most [] state =
      (attempts client query most left (client.held query state asked)
        (client.stateAfter query state asked)).after
          ((List.range asked).flatMap (client.attemptEvents query state most)) := by
  induction asked generalizing left with
  | zero =>
      rw [Nat.zero_add] at within
      rw [within]
      rfl
  | succ asked ih =>
      have total : asked + (left + 1) = most := by omega
      rw [ih (fun index less => earlier index (Nat.lt_succ_of_lt less)) total,
        attempts_of_not_isFinal total (earlier asked (Nat.lt_succ_self asked)),
        List.range_succ, List.flatMap_append, List.flatMap_singleton]
      simp only [Step.after, List.append_assoc]

/-- The attempts end with the last answer, in the state that it leaves. -/
theorem attempts_of_isLast {index : Nat} (isLast : client.IsLast query state most index) :
    attempts client query most most [] state =
      ⟨(client.answer query state index).mapError .client,
        client.stateAfter query state (index + 1),
        (List.range (index + 1)).flatMap (client.attemptEvents query state most)⟩ := by
  obtain ⟨within, earlier, ends⟩ := isLast
  obtain ⟨left, rfl⟩ := Nat.exists_eq_add_of_lt within
  have total : index + (left + 1) = index + left + 1 := rfl
  rw [attempts_of_earlier earlier total, List.range_succ, List.flatMap_append,
    List.flatMap_singleton]
  by_cases final : IsFinal (client.answer query state index)
  · rw [attempts_of_isFinal total final]
    rfl
  · obtain rfl : left = 0 := by
      have := ends.resolve_left final
      omega
    rw [attempts_of_not_isFinal total final, attempts, Client.held]
    cases answered : client.answer query state index with
    | error message =>
        rw [answered] at final
        exact absurd trivial final
    | ok records =>
        simp only [Step.after, Step.pure, List.append_nil]
        rfl

end Extraction

/-! ## The extraction -/

section Extract

variable {σ : Type} {client : Client σ} {query : Query} {state : σ} {most last : Nat}

/-- An extraction comes to what its last answer comes to. -/
theorem extract_of_isLast (isLast : client.IsLast query state most last) :
    extract client query most state =
      ⟨conclude (client.answer query state last), client.stateAfter query state (last + 1),
        (List.range (last + 1)).flatMap (client.attemptEvents query state most)⟩ := by
  rw [extract, Extraction.attempts_of_isLast isLast]
  cases client.answer query state last with
  | error message => rfl
  | ok records => rfl

theorem conclude_of_few {records : List Record} (few : records.length ≤ 1) :
    conclude (.ok records) = .error .emptyResponse := by
  match records with
  | [] => rfl
  | [record] => rfl
  | first :: second :: rest => simp at few

/--
The law of retries. An extraction takes the answers of a client up to the first that
is an error or has more than one record, and `most` of them if there is none. It asks
as often as it takes an answer, always the same query. The last answer alone decides:
an error is final, and the records of the last answer are judged, which are too few if
no answer has more than one. Around what the client does and logs itself there is a debug
entry in front for each attempt, with its number and the total, and a warning behind for
each answer with fewer than two records, with the number and the count.
-/
theorem extract_takes_answers (client : Client σ) (query : Query) (state : σ)
    (positive : 0 < most) :
    let answer := client.answer query state
    let step := extract client query most state
    ∃ last, client.IsLast query state most last ∧
      step.state = client.stateAfter query state (last + 1) ∧
      (extract client.recorded query most (state, [])).state =
        (client.stateAfter query state (last + 1), List.replicate (last + 1) query) ∧
      (∀ message, answer last = .error message →
        step.result = .error (.client message) ∧ Failure.exitCode (.client message) = 1) ∧
      (∀ records, answer last = .ok records → step.result = Outcome.ofRecords records) ∧
      (∀ (τ : Type) (other : Client τ) (start : τ) (otherMost otherLast : Nat),
        other.IsLast query start otherMost otherLast →
        other.answer query start otherLast = answer last →
        (extract other query otherMost start).result = step.result) ∧
      ((∀ asked < most, ∃ records, answer asked = .ok records ∧ records.length ≤ 1) →
        last + 1 = most ∧ step.result = .error .emptyResponse) ∧
      step.events = (List.range (last + 1)).flatMap (client.attemptEvents query state most) ∧
      ∃ warnings : Nat → List LogEntry,
        logsOf step.events = ((List.range (last + 1)).flatMap fun asked =>
          ⟨.debug, "pillar_model::extract",
            "Querying '" ++ query.pillar ++ "' on '" ++ query.target ++ "' (" ++
              query.targetType.name ++ "), attempt " ++ toString (asked + 1) ++ " of " ++
              toString most⟩ ::
            (logsOf (client.ask query (client.stateAfter query state asked)).events ++
              warnings asked)) ∧
        (∀ asked, IsFinal (answer asked) → warnings asked = []) ∧
        ∀ asked records, answer asked = .ok records → records.length < 2 →
          warnings asked = [⟨.warn, "pillar_model::extract",
            "Attempt " ++ toString (asked + 1) ++ " returned " ++ toString records.length ++
              " record(s), the response is incomplete"⟩] := by
  obtain ⟨last, isLast⟩ := client.exists_isLast query state positive
  have run := extract_of_isLast isLast
  dsimp only
  rw [run]
  refine ⟨last, isLast, rfl, ?_, ?_, ?_, ?_, ?_, rfl,
    fun asked => logsOf (complaint (asked + 1) (client.answer query state asked)), ?_, ?_, ?_⟩
  · rw [extract_of_isLast (isLast.recorded []), Client.stateAfter_recorded, List.nil_append]
  · intro message failed
    rw [failed]
    exact ⟨rfl, rfl⟩
  · intro records answered
    rw [answered]
    rfl
  · intro τ other start otherMost otherLast otherIsLast same
    rw [extract_of_isLast otherIsLast, same]
  · intro short
    obtain ⟨records, answered, few⟩ := short last isLast.within
    rw [answered]
    refine ⟨isLast.ends.resolve_left ?_, conclude_of_few few⟩
    rw [answered]
    exact Nat.not_lt.mpr few
  · rw [logsOf, List.filterMap_flatMap]
    exact congrArg (List.flatMap · _) (funext fun asked => Client.logsOf_attemptEvents most asked)
  · intro asked final
    dsimp only
    rw [complaint_of_isFinal (asked + 1) final]
    rfl
  · intro asked records answered few
    dsimp only
    rw [answered, logsOf_complaint (asked + 1) few]

end Extract

/-! ## An error in the second attempt -/

namespace Outage

def query : Query :=
  ⟨"web", "address", .list, by decide, by decide⟩

/-- The third answer would be complete, but is never taken. -/
def script : Script (Except String (List Record)) :=
  ⟨[.ok [.incomplete "null"], .error "down"],
    .ok [.ofReturns (some 0) [("db", .int 5)], .ofFailed (some 0) []]⟩

theorem answers_script :
    ¬ IsFinal ((Client.scripted script).answer query [] 0) ∧
      (Client.scripted script).answer query [] 1 = .error "down" := by
  constructor
  · exact Nat.lt_irrefl 1
  · rfl

/-- The error ends the extraction, after two calls of three and one warning. -/
theorem extract_stops_at_error :
    0 < 3 ∧
      let step := extract (.scripted script) query 3 []
      step.state = [query, query] ∧ step.result = .error (.client "down") ∧
      logsOf step.events =
        [⟨.debug, "pillar_model::extract", "Querying 'address' on 'web' (list), attempt 1 of 3"⟩,
          ⟨.warn, "pillar_model::extract",
            "Attempt 1 returned 1 record(s), the response is incomplete"⟩,
          ⟨.debug, "pillar_model::extract",
            "Querying 'address' on 'web' (list), attempt 2 of 3"⟩] := by
  obtain ⟨last, isLast, state, -, failed, -, -, -, -, warnings, logs, quiet, warned⟩ :=
    extract_takes_answers (.scripted script) query [] (Nat.succ_pos 2)
  obtain ⟨few, down⟩ := answers_script
  obtain rfl : last = 1 := by
    match last, isLast with
    | 0, ⟨_, _, ends⟩ => exact absurd (ends.resolve_left few) (by decide)
    | 1, _ => rfl
    | last + 2, ⟨_, earlier, _⟩ =>
        refine absurd ?_ (earlier 1 (Nat.lt_add_left last (Nat.lt_succ_self 1)))
        rw [down]
        exact trivial
  have first := warned 0 [.incomplete "null"] rfl (by decide)
  have second := quiet 1 (down ▸ trivial)
  refine ⟨Nat.succ_pos 2, state, (failed "down" down).1, logs.trans ?_⟩
  have taken : List.range (1 + 1) = [0, 1] := rfl
  rw [taken, List.flatMap_cons, List.flatMap_singleton, first, second]
  decide

end Outage

end PillarLookup
