import Mathlib
import PillarLookup.Proofs.Answers
import PillarLookup.Proofs.Classification

/-!
# The order of records

A pair of records is judged by what the records are and not by where they stand. In the
other order it comes to the same value or the same failure; only a malformed pair, which
is shown as it stands, is shown the other way round. An extraction passes this on: it
takes as many answers whichever way round the pairs among them are.
-/

namespace PillarLookup

/-! ## Outcomes in the other order -/

/-- A malformed pair shown in the other order; every other failure stays as it is. -/
def Failure.reversed : Failure → Failure
  | .malformed first second => .malformed second first
  | failure => failure

namespace Outcome

def reversed (outcome : Outcome) : Outcome :=
  outcome.mapError Failure.reversed

theorem reversed_eq_self {outcome : Outcome}
    (wellFormed : ∀ first second, outcome ≠ .error (.malformed first second)) :
    outcome.reversed = outcome := by
  cases outcome with
  | ok value => rfl
  | error failure =>
      cases failure with
      | malformed first second => exact absurd rfl (wellFormed first second)
      | _ => rfl

theorem reversed_eq_ok_iff {outcome : Outcome} {value : Json} :
    outcome.reversed = .ok value ↔ outcome = .ok value := by
  cases outcome with
  | ok other => exact Iff.rfl
  | error failure => exact iff_of_false (by rintro ⟨⟩) (by rintro ⟨⟩)

/-- The kind and the exit code of a failure do not depend on the order, nor do its details. -/
theorem reversed_error (failure : Failure) :
    ∃ shown, reversed (.error failure) = .error shown ∧
      shown.kind = failure.kind ∧ shown.exitCode = failure.exitCode ∧
      (shown = failure ∨
        ∃ first second, failure = .malformed first second ∧ shown = .malformed second first) := by
  cases failure with
  | malformed first second => exact ⟨_, rfl, rfl, rfl, .inr ⟨first, second, rfl, rfl⟩⟩
  | _ => exact ⟨_, rfl, rfl, rfl, .inl rfl⟩

end Outcome

/-- A pair in the other order comes to the same outcome, shown in the other order. -/
theorem ofRecords_swap (first second : Record) :
    Outcome.ofRecords [second, first] = (Outcome.ofRecords [first, second]).reversed := by
  rcases pair_cases first second with alike | ⟨failed, lists, value⟩ | ⟨failed, lists, value⟩
  · rw [ofRecords_of_alike alike, ofRecords_of_alike alike.symm]
    rfl
  · rw [ofRecords_of_pair (.inl rfl) lists value, ofRecords_of_pair (.inr rfl) lists value,
      Outcome.reversed_eq_self (ofPair_ne_malformed _ second)]
  · rw [ofRecords_of_pair (.inl rfl) lists value, ofRecords_of_pair (.inr rfl) lists value,
      Outcome.reversed_eq_self (ofPair_ne_malformed _ first)]

/-! ## Answers in the other order -/

/-- The same answer, or its two records in the other order. -/
inductive Reordered : Except String (List Record) → Except String (List Record) → Prop
  | same (answer : Except String (List Record)) : Reordered answer answer
  | swapped (first second : Record) : Reordered (.ok [first, second]) (.ok [second, first])

namespace Reordered

variable {answer other : Except String (List Record)}

theorem isFinal_iff (reordered : Reordered answer other) : IsFinal answer ↔ IsFinal other := by
  cases reordered with
  | same => exact Iff.rfl
  | swapped first second => exact Iff.rfl

theorem conclude_eq (reordered : Reordered answer other) :
    conclude other = conclude answer ∨ conclude other = (conclude answer).reversed := by
  cases reordered with
  | same => exact .inl rfl
  | swapped first second => exact .inr (ofRecords_swap first second)

end Reordered

section Clients

variable {σ τ : Type} {client : Client σ} {other : Client τ} {query : Query} {state : σ}
  {start : τ} {most last : Nat}

/-- The last answer that is taken stands at the same place among reordered answers. -/
theorem Client.IsLast.of_reordered (isLast : client.IsLast query state most last)
    (reordered : ∀ asked < most,
      Reordered (client.answer query state asked) (other.answer query start asked)) :
    other.IsLast query start most last := by
  obtain ⟨within, earlier, ends⟩ := isLast
  constructor
  · exact within
  · intro asked less
    rw [← (reordered asked (Nat.lt_trans less within)).isFinal_iff]
    exact earlier asked less
  · rw [← (reordered last within).isFinal_iff]
    exact ends

theorem extract_of_reordered
    (reordered : ∀ asked < most,
      Reordered (client.answer query state asked) (other.answer query start asked)) :
    let outcome := (extract client query most state).result
    let shown := (extract other query most start).result
    shown = outcome ∨ shown = outcome.reversed := by
  rcases Nat.eq_zero_or_pos most with rfl | positive
  · exact .inl rfl
  · obtain ⟨last, isLast⟩ := client.exists_isLast query state positive
    rw [extract_of_isLast isLast, extract_of_isLast (isLast.of_reordered reordered)]
    exact (reordered last isLast.within).conclude_eq

end Clients

/--
The order of records is irrelevant. A pair comes to the same outcome in either order,
but that a malformed pair is shown the other way round: the value is the same, and so
are the kind of a failure, its exit code and, unless it is malformed, its details. The
same holds of extractions from two clients whose answers differ in the order of pairs.
-/
theorem order_is_irrelevant :
    (∀ first second : Record,
      Outcome.ofRecords [second, first] = (Outcome.ofRecords [first, second]).reversed) ∧
    (∀ (σ τ : Type) (client : Client σ) (other : Client τ) (query : Query) (most : Nat)
      (state : σ) (start : τ),
      (∀ asked < most,
        Reordered (client.answer query state asked) (other.answer query start asked)) →
      let outcome := (extract client query most state).result
      let shown := (extract other query most start).result
      shown = outcome ∨ shown = outcome.reversed) ∧
    (∀ outcome : Outcome,
      (∀ value, outcome.reversed = .ok value ↔ outcome = .ok value) ∧
      ∀ failure, outcome = .error failure →
        ∃ shown, outcome.reversed = .error shown ∧
          shown.kind = failure.kind ∧ shown.exitCode = failure.exitCode ∧
          (shown = failure ∨
            ∃ first second, failure = .malformed first second ∧
              shown = .malformed second first)) := by
  refine ⟨ofRecords_swap, ?_, ?_⟩
  · intro σ τ client other query most state start reordered
    exact extract_of_reordered reordered
  · intro outcome
    constructor
    · intro value
      exact Outcome.reversed_eq_ok_iff
    · rintro failure rfl
      exact Outcome.reversed_error failure

/-! ## Pairs the other way round -/

namespace Mirror

def returns : Record :=
  .ofReturns (some 2) [("db", .int 5)]

def silent : Record :=
  .ofFailed (some 1) ["web"]

def script : Script (Except String (List Record)) :=
  ⟨[.ok [.incomplete "null"]], .ok [returns, silent]⟩

def mirrored : Script (Except String (List Record)) :=
  ⟨[.ok [.incomplete "null"]], .ok [silent, returns]⟩

theorem reordered : ∀ asked < 3,
    Reordered ((Client.scripted script).answer Outage.query [] asked)
      ((Client.scripted mirrored).answer Outage.query [] asked) := by
  intro asked less
  match asked, less with
  | 0, _ => exact .same _
  | 1, _ => exact .swapped returns silent
  | 2, _ => exact .swapped returns silent

/-- The failure names the silent minion and forwards the status of the record of returns. -/
theorem extract_mirrored :
    (∀ asked < 3, Reordered ((Client.scripted script).answer Outage.query [] asked)
      ((Client.scripted mirrored).answer Outage.query [] asked)) ∧
    (extract (.scripted mirrored) Outage.query 3 []).result =
      .error (.remote (some 1) (some 2) ["web"]) := by
  have outcome : (extract (.scripted script) Outage.query 3 []).result =
      .error (.remote (some 1) (some 2) ["web"]) := by cbv
  obtain ⟨-, extracted, -⟩ := order_is_irrelevant
  refine ⟨reordered, ?_⟩
  rcases extracted _ _ (.scripted script) (.scripted mirrored) Outage.query 3 [] [] reordered
    with same | same
  · rw [same, outcome]
  · rw [same, outcome]
    rfl

end Mirror

end PillarLookup
