import PillarLookup.Extraction
import PillarLookup.Proofs.Trace

/-!
# One attempt after the other

What an attempt does to the rest of an extraction: an error and a full answer end
it, and every other answer leaves the state of the client to the next attempt.
-/

namespace PillarLookup

namespace Extraction

variable {σ : Type} {client : Client σ} {query : Query} {most left : Nat} {last : List Record}
  {state : σ}

theorem attempts_of_error {message : String}
    (failed : (client.ask query state).result = .error message) :
    let step := attempts client query most (left + 1) last state
    step.result = .error (.client message) ∧ step.state = (client.ask query state).state ∧
      requestsOf step.events = requestsOf (client.ask query state).events := by
  rw [attempts, failed]
  exact ⟨rfl, rfl, rfl⟩

theorem attempts_of_full {records : List Record}
    (answered : (client.ask query state).result = .ok records) (full : 1 < records.length) :
    let step := attempts client query most (left + 1) last state
    step.result = .ok records ∧ step.state = (client.ask query state).state ∧
      requestsOf step.events = requestsOf (client.ask query state).events := by
  rw [attempts, answered]
  dsimp only
  rw [if_pos full]
  exact ⟨rfl, rfl, rfl⟩

/-- After an answer of one record at most, the next attempt goes on from where it ended. -/
theorem attempts_of_few {records : List Record}
    (answered : (client.ask query state).result = .ok records) (few : ¬ 1 < records.length) :
    let step := attempts client query most (left + 1) last state
    let rest := attempts client query most left records (client.ask query state).state
    step.result = rest.result ∧ step.state = rest.state ∧
      requestsOf step.events =
        requestsOf (client.ask query state).events ++ requestsOf rest.events := by
  rw [attempts, answered]
  dsimp only
  rw [if_neg few]
  refine ⟨rfl, rfl, ?_⟩
  rw [Step.after_events, requestsOf_append, List.cons_append, requestsOf_logged,
    requestsOf_append, requestsOf_logged, requestsOf_nil, List.append_nil]

/-- What every answer preserves holds of the state that the attempts leave. -/
theorem attempts_preserves {holds : σ → Prop}
    (step : ∀ state, holds state → holds (client.ask query state).state) (start : holds state) :
    holds (attempts client query most left last state).state := by
  induction left, last, state using attempts.induct client query most with
  | case1 last state => exact start
  | case2 left last state answer message failed =>
      rw [(attempts_of_error failed).2.1]
      exact step state start
  | case3 left last state answer records answered full =>
      rw [(attempts_of_full answered full).2.1]
      exact step state start
  | case4 left last state answer records answered few ih =>
      rw [(attempts_of_few answered few).2.1]
      exact ih (step state start)

end Extraction

/-- A client that answers as another one does, whatever else it keeps. -/
structure Client.Mimics {σ τ : Type} (other : Client τ) (client : Client σ) (view : τ → σ) :
    Prop where
  result_eq : ∀ query state,
    (other.ask query state).result = (client.ask query (view state)).result
  state_eq : ∀ query state,
    view (other.ask query state).state = (client.ask query (view state)).state
  events_eq : ∀ query state,
    (other.ask query state).events = (client.ask query (view state)).events

section Mimics

variable {σ τ : Type} {other : Client τ} {client : Client σ} {view : τ → σ}
  (mimics : other.Mimics client view) (query : Query) (most : Nat)

include mimics

theorem attempts_of_mimics (left : Nat) (last : List Record) (state : τ) :
    let step := Extraction.attempts other query most left last state
    let real := Extraction.attempts client query most left last (view state)
    step.result = real.result ∧ view step.state = real.state ∧ step.events = real.events := by
  induction left generalizing last state with
  | zero => exact ⟨rfl, rfl, rfl⟩
  | succ left ih =>
      rw [Extraction.attempts, Extraction.attempts, mimics.result_eq, mimics.events_eq]
      cases (client.ask query (view state)).result with
      | error message => exact ⟨rfl, mimics.state_eq query state, rfl⟩
      | ok records =>
          dsimp only
          split
          · exact ⟨rfl, mimics.state_eq query state, rfl⟩
          · obtain ⟨result, viewed, events⟩ := ih records (other.ask query state).state
            rw [mimics.state_eq] at result viewed events
            refine ⟨result, viewed, ?_⟩
            rw [Step.after_events, Step.after_events, events]

/-- An extraction cannot tell a client from one that answers alike. -/
theorem extract_of_mimics (state : τ) :
    let step := extract other query most state
    let real := extract client query most (view state)
    step.result = real.result ∧ view step.state = real.state ∧ step.events = real.events := by
  obtain ⟨result, viewed, events⟩ := attempts_of_mimics mimics query most most [] state
  unfold extract
  dsimp only
  rw [result]
  cases (Extraction.attempts client query most most [] (view state)).result with
  | error failure => exact ⟨rfl, viewed, events⟩
  | ok records => exact ⟨rfl, viewed, events⟩

end Mimics

/-! ## Values -/

namespace Extraction

variable {σ : Type} {client : Client σ} {query : Query} {most left : Nat} {last : List Record}
  {state : σ} {value : Json}

/-- The attempts that are left end in records that come to a value. -/
def Attains (client : Client σ) (query : Query) (most left : Nat) (last : List Record) (state : σ)
    (value : Json) : Prop :=
  ∃ records, (attempts client query most left last state).result = .ok records ∧
    Outcome.ofRecords records = .ok value

theorem not_ok_of_few {records : List Record} (few : ¬ 1 < records.length) :
    Outcome.ofRecords records ≠ .ok value := by
  match records with
  | [] => simp [Outcome.ofRecords]
  | [record] => simp [Outcome.ofRecords]
  | first :: second :: rest => simp at few

theorem not_attains_zero (few : ¬ 1 < last.length) :
    ¬ Attains client query most 0 last state value := by
  rintro ⟨records, same, outcome⟩
  cases same
  exact not_ok_of_few few outcome

theorem not_attains_of_error {message : String}
    (failed : (client.ask query state).result = .error message) :
    ¬ Attains client query most (left + 1) last state value := by
  rintro ⟨records, result, -⟩
  rw [(attempts_of_error failed).1] at result
  cases result

theorem attains_of_full {records : List Record}
    (answered : (client.ask query state).result = .ok records) (full : 1 < records.length) :
    Attains client query most (left + 1) last state value ↔
      Outcome.ofRecords records = .ok value := by
  rw [Attains]
  rw [(attempts_of_full answered full).1]
  simp

theorem attains_of_few {records : List Record}
    (answered : (client.ask query state).result = .ok records) (few : ¬ 1 < records.length) :
    Attains client query most (left + 1) last state value ↔
      Attains client query most left records (client.ask query state).state value := by
  unfold Attains
  rw [(attempts_of_few answered few).1]

end Extraction

section Extract

variable {σ : Type} (client : Client σ) (query : Query) (most : Nat) (state : σ)

/-- An extraction judges the records of the attempts, and does nothing else. -/
theorem extract_frame :
    let step := Extraction.attempts client query most most [] state
    (extract client query most state).state = step.state ∧
      (extract client query most state).events = step.events := by
  rw [extract]
  dsimp only
  split <;> exact ⟨rfl, rfl⟩

theorem extract_eq_ok_iff {value : Json} :
    (extract client query most state).result = .ok value ↔
      Extraction.Attains client query most most [] state value := by
  unfold extract Extraction.Attains
  dsimp only
  cases (Extraction.attempts client query most most [] state).result with
  | error failure => simp
  | ok records => simp

end Extract

end PillarLookup
