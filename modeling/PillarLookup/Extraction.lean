import PillarLookup.Outcome
import PillarLookup.Query
import PillarLookup.Script
import PillarLookup.Trace

/-!
# Extraction

A client is asked until it yields more than one record or the attempts are used
up; an answer that is an error ends the extraction on the spot. The records of
the last attempt alone are judged.
-/

namespace PillarLookup

/-- Whatever runs a query on the minions, as a function of its state. -/
structure Client (σ : Type) where
  ask : Query → σ → Step σ (Except String (List Record))

/-- A client that answers from a script and keeps the queries it was asked. -/
def Client.scripted (script : Script (Except String (List Record))) : Client (List Query) where
  ask query asked := .pure (script.answer asked.length) (asked ++ [query])

namespace Extraction

/-- The attempts that are made when nothing else is asked for. -/
def defaultMaxAttempts : Nat := 3

/-- The part of the program that logs attempts. -/
def logTarget : String := "pillar_model::extract"

def attemptEntry (query : Query) (attempt maxAttempts : Nat) : LogEntry :=
  ⟨.debug, logTarget,
    "Querying '" ++ query.pillar ++ "' on '" ++ query.target ++ "' (" ++ query.targetType.name ++
      "), attempt " ++ toString attempt ++ " of " ++ toString maxAttempts⟩

def incompleteEntry (attempt count : Nat) : LogEntry :=
  ⟨.warn, logTarget,
    "Attempt " ++ toString attempt ++ " returned " ++ toString count ++
      " record(s), the response is incomplete"⟩

variable {σ : Type}

/-- Make up to `left` attempts of `maxAttempts`; `last` holds the records of the one before. -/
def attempts (client : Client σ) (query : Query) (maxAttempts : Nat) :
    Nat → List Record → σ → Step σ (Except Failure (List Record))
  | 0, last, state => .pure (.ok last) state
  | left + 1, _, state =>
      let attempt := maxAttempts - left
      let answer := client.ask query state
      let asked := .logged (attemptEntry query attempt maxAttempts) :: answer.events
      match answer.result with
      | .error message => ⟨.error (.client message), answer.state, asked⟩
      | .ok records =>
          if 1 < records.length then ⟨.ok records, answer.state, asked⟩
          else
            (attempts client query maxAttempts left records answer.state).after
              (asked ++ [.logged (incompleteEntry attempt records.length)])

end Extraction

/-- The value of the only minion that answers `query`. -/
def extract {σ : Type} (client : Client σ) (query : Query) (maxAttempts : Nat) (state : σ) :
    Step σ Outcome :=
  let step := Extraction.attempts client query maxAttempts maxAttempts [] state
  match step.result with
  | .error failure => ⟨.error failure, step.state, step.events⟩
  | .ok records => ⟨Outcome.ofRecords records, step.state, step.events⟩

end PillarLookup
