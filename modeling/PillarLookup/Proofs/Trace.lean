import PillarLookup.Trace

/-!
# Requests of a trace

The requests among the events of a step, and the parts of a step that events are
put in front of.
-/

namespace PillarLookup

@[simp] theorem requestsOf_nil : requestsOf [] = [] :=
  rfl

@[simp] theorem requestsOf_logged (entry : LogEntry) (events : List Event) :
    requestsOf (.logged entry :: events) = requestsOf events :=
  rfl

@[simp] theorem requestsOf_sent (request : Http.Request) (events : List Event) :
    requestsOf (.sent request :: events) = request :: requestsOf events :=
  rfl

namespace Step

variable {σ α β ε : Type}

@[simp] theorem after_result (events : List Event) (step : Step σ α) :
    (step.after events).result = step.result :=
  rfl

@[simp] theorem after_state (events : List Event) (step : Step σ α) :
    (step.after events).state = step.state :=
  rfl

@[simp] theorem after_events (events : List Event) (step : Step σ α) :
    (step.after events).events = events ++ step.events :=
  rfl

@[simp] theorem pure_result (result : α) (state : σ) : (Step.pure result state).result = result :=
  rfl

@[simp] theorem pure_state (result : α) (state : σ) : (Step.pure result state).state = state :=
  rfl

@[simp] theorem pure_events (result : α) (state : σ) : (Step.pure result state).events = [] :=
  rfl

theorem andThen_result_error_iff {step : Step σ (Except ε α)}
    {next : α → σ → Step σ (Except ε β)} {error : ε} :
    (step.andThen next).result = .error error ↔
      step.result = .error error ∨
        ∃ middle, step.result = .ok middle ∧ (next middle step.state).result = .error error := by
  cases done : step.result with
  | error first => simp [andThen, done]
  | ok middle => simp [andThen, done]

/-- What is made of a result afterwards leaves no trace. -/
theorem andThen_pure_events (step : Step σ (Except ε α)) (make : α → Except ε β) :
    (step.andThen fun value state => .pure (make value) state).events = step.events := by
  cases done : step.result with
  | error error => rw [andThen_error done]
  | ok value => rw [andThen_ok done, after_events, pure_events, List.append_nil]

end Step

end PillarLookup
