import PillarLookup.Proofs.Extraction
import PillarLookup.SaltApi.Client

/-!
# The history of a client

What happens to one client: queries of its own, extractions that query it, and
diagnostics that show it. The history keeps every query and every diagnostic, each
with the requests that were sent before it. Keeping it changes nothing.
-/

namespace PillarLookup.SaltApi

inductive Action where
  | ask (query : Query)
  | extract (query : Query) (maxAttempts : Nat)
  | debug

/-- A query, the session it found and the requests that were sent before it. -/
structure Call where
  query : Query
  session : Session
  past : List Http.Request

/-- What a diagnostic showed, and the requests that were sent before it. -/
structure Display where
  text : String
  past : List Http.Request

/-- The requests that a query sends. -/
def Call.requests (config : Config) (server : Server) (call : Call) : List Http.Request :=
  requestsOf (ask config server call.query call.session).events

structure History where
  session : Session
  sent : List Http.Request
  calls : List Call
  displays : List Display

namespace History

def start : History :=
  ⟨.start, [], [], []⟩

def ask (config : Config) (server : Server) (query : Query) (history : History) : History :=
  let step := SaltApi.ask config server query history.session
  { history with
    session := step.state
    sent := history.sent ++ requestsOf step.events
    calls := history.calls ++ [⟨query, history.session, history.sent⟩] }

def debug (config : Config) (history : History) : History :=
  { history with
    displays := history.displays ++ [⟨describe config history.session, history.sent⟩] }

end History

/-- The client with its history for a state. -/
def chronicler (config : Config) (server : Server) : Client History where
  ask query history :=
    let step := (client config server).ask query history.session
    ⟨step.result, history.ask config server query, step.events⟩

def Action.perform (config : Config) (server : Server) (history : History) : Action → History
  | .ask query => ((chronicler config server).ask query history).state
  | .extract query most =>
      (PillarLookup.extract (chronicler config server) query most history).state
  | .debug => history.debug config

/-- The history of a new client after some actions. -/
def History.run (config : Config) (server : Server) (actions : List Action) : History :=
  actions.foldl (Action.perform config server) .start

section Runs

variable (config : Config) (server : Server)

theorem chronicler_mimics :
    (chronicler config server).Mimics (client config server) History.session :=
  ⟨fun _ _ => rfl, fun _ _ => rfl, fun _ _ => rfl⟩

/-- An extraction goes the same way whether or not the history is kept. -/
theorem extract_chronicler (query : Query) (most : Nat) (history : History) :
    let step := PillarLookup.extract (chronicler config server) query most history
    let real := PillarLookup.extract (client config server) query most history.session
    step.result = real.result ∧ step.state.session = real.state ∧ step.events = real.events :=
  extract_of_mimics (chronicler_mimics config server) query most history

variable {config server} {holds : History → Prop}

theorem perform_preserves
    (asked : ∀ query history, holds history → holds (history.ask config server query))
    (shown : ∀ history, holds history → holds (history.debug config))
    (action : Action) {history : History} (before : holds history) :
    holds (action.perform config server history) := by
  cases action with
  | ask query => exact asked query history before
  | extract query most =>
      change holds (PillarLookup.extract (chronicler config server) query most history).state
      rw [(extract_frame (chronicler config server) query most history).1]
      exact Extraction.attempts_preserves (asked query) before
  | debug => exact shown history before

/-- What queries and diagnostics preserve holds of every history. -/
theorem run_preserves (holds : History → Prop) (start : holds .start)
    (asked : ∀ query history, holds history → holds (history.ask config server query))
    (shown : ∀ history, holds history → holds (history.debug config))
    (actions : List Action) : holds (History.run config server actions) := by
  have later : ∀ history, holds history →
      holds (actions.foldl (Action.perform config server) history) := by
    induction actions with
    | nil => exact fun history before => before
    | cons action rest ih =>
        intro history before
        exact ih _ (perform_preserves asked shown action before)
  exact later .start start

/-- Whatever is sent, one of the queries sends it. -/
theorem run_sent (config : Config) (server : Server) (actions : List Action) :
    let history := History.run config server actions
    history.sent = history.calls.flatMap (Call.requests config server) := by
  refine run_preserves (fun history =>
    history.sent = history.calls.flatMap (Call.requests config server)) rfl ?_ ?_ actions
  · intro query history sent
    dsimp only [History.ask]
    rw [List.flatMap_append, List.flatMap_singleton, ← sent]
    rfl
  · exact fun history sent => sent

end Runs

end PillarLookup.SaltApi
