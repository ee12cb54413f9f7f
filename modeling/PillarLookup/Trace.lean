import PillarLookup.Http
import PillarLookup.Log

/-!
# Steps and their trace

A step of the lookup has a result, leaves a state behind and is accompanied by
events: entries of the log and requests that a server received, in order.
-/

namespace PillarLookup

inductive Event where
  | logged (entry : LogEntry)
  | sent (request : Http.Request)
deriving DecidableEq, Repr

structure Step (σ α : Type) where
  result : α
  state : σ
  events : List Event

namespace Event

def entry? : Event → Option LogEntry
  | .logged entry => some entry
  | .sent _ => none

def request? : Event → Option Http.Request
  | .logged _ => none
  | .sent request => some request

end Event

def logsOf (events : List Event) : List LogEntry :=
  events.filterMap Event.entry?

def requestsOf (events : List Event) : List Http.Request :=
  events.filterMap Event.request?

theorem logsOf_append (first second : List Event) :
    logsOf (first ++ second) = logsOf first ++ logsOf second :=
  List.filterMap_append

theorem requestsOf_append (first second : List Event) :
    requestsOf (first ++ second) = requestsOf first ++ requestsOf second :=
  List.filterMap_append

namespace Step

variable {σ α β ε : Type}

def pure (result : α) (state : σ) : Step σ α :=
  ⟨result, state, []⟩

/-- Put events in front of those of a step. -/
def after (events : List Event) (step : Step σ α) : Step σ α :=
  { step with events := events ++ step.events }

/-- Continue a step that succeeded; a failure is final. -/
def andThen (step : Step σ (Except ε α)) (next : α → σ → Step σ (Except ε β)) :
    Step σ (Except ε β) :=
  match step.result with
  | .error error => ⟨.error error, step.state, step.events⟩
  | .ok value => (next value step.state).after step.events

theorem andThen_ok {step : Step σ (Except ε α)} {value : α} (done : step.result = .ok value)
    (next : α → σ → Step σ (Except ε β)) :
    step.andThen next = (next value step.state).after step.events := by
  simp [andThen, done]

theorem andThen_error {step : Step σ (Except ε α)} {error : ε}
    (failed : step.result = .error error) (next : α → σ → Step σ (Except ε β)) :
    step.andThen next = ⟨.error error, step.state, step.events⟩ := by
  simp [andThen, failed]

theorem andThen_result_ok_iff {step : Step σ (Except ε α)}
    {next : α → σ → Step σ (Except ε β)} {value : β} :
    (step.andThen next).result = .ok value ↔
      ∃ middle, step.result = .ok middle ∧ (next middle step.state).result = .ok value := by
  cases done : step.result with
  | error error => simp [andThen, done]
  | ok middle => simp [andThen, done, after]

end Step

end PillarLookup
