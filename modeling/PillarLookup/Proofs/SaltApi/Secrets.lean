import PillarLookup.Proofs.SaltApi.History
import PillarLookup.Proofs.SaltApi.Twins
import PillarLookup.Proofs.SaltApi.Value

/-!
# Secrets do not show

The password and the tokens of a client show in the requests that carry them, and nowhere
else. Two runs of the same actions that differ in nothing but these come to the same
results, fill the log with the same entries, display the same texts and send the same
requests at the same times.
-/

namespace PillarLookup.SaltApi

/-- What an action comes to: an answer, an outcome, or the texts of the two diagnostics. -/
inductive Sight where
  | answered (result : Except ApiError (List Record))
  | extracted (outcome : Outcome)
  | displayed (config client : String)

/-- An action as a step of the client. -/
def Action.view (config : Config) (server : Server) (session : Session) :
    Action → Step Session Sight
  | .ask query =>
      let step := SaltApi.ask config server query session
      ⟨.answered step.result, step.state, step.events⟩
  | .extract query most =>
      let step := PillarLookup.extract (client config server) query most session
      ⟨.extracted step.result, step.state, step.events⟩
  | .debug => .pure (.displayed config.describe (describe config session)) session

/-- The steps of a client that performs some actions. -/
def views (config : Config) (server : Server) : List Action → Session → List (Step Session Sight)
  | [], _ => []
  | action :: actions, session =>
      let step := action.view config server session
      step :: views config server actions step.state

section Views

variable {config : Config} {password : String} {server twin : Server} {session other : Session}

theorem view_twins (servers : server.Twin twin) (action : Action)
    (sessions : session.Twin other) :
    Twins Eq (action.view config server session)
      (action.view (config.withPassword password) twin other) := by
  cases action with
  | ask query =>
      have asked : Twins Eq (ask config server query session)
          (ask (config.withPassword password) twin query other) :=
        ask_twins servers query sessions
      exact ⟨congrArg Sight.answered asked.result, asked.state, asked.events⟩
  | extract query most =>
      have extracted : Twins Eq (extract (client config server) query most session)
          (extract (client (config.withPassword password) twin) query most other) :=
        extract_twins servers query most sessions
      exact ⟨congrArg Sight.extracted extracted.result, extracted.state, extracted.events⟩
  | debug =>
      refine .pure ?_ sessions
      rw [describe_twins sessions]
      rfl

/-- Whatever one of the twins goes through, the other one does as well. -/
theorem views_twins (servers : server.Twin twin) (actions : List Action)
    (sessions : session.Twin other) :
    List.Forall₂ (Twins Eq) (views config server actions session)
      (views (config.withPassword password) twin actions other) := by
  induction actions generalizing session other with
  | nil => exact .nil
  | cons action actions ih =>
      have viewed : Twins Eq (action.view config server session)
          (action.view (config.withPassword password) twin other) :=
        view_twins servers action sessions
      exact .cons viewed (ih viewed.state)

theorem Alike.entry?_eq {first second : Event} (alike : Alike first second) :
    first.entry? = second.entry? := by
  cases alike <;> rfl

theorem logsOf_eq_of_alike {events others : List Event} (alike : List.Forall₂ Alike events others) :
    logsOf events = logsOf others := by
  induction alike with
  | nil => rfl
  | cons same rest ih =>
      unfold logsOf at ih ⊢
      rw [List.filterMap_cons, List.filterMap_cons, same.entry?_eq, ih]

/--
The secrets of a client do not leak. Two new clients perform the same actions, with
configurations that differ in the password and with servers that differ in the tokens they
grant. Action by action they come to the same results, errors or texts, fill the log with
the same entries and send the same requests at the same times and in the same places of
the trace; only the password of a login and the token of what follows it may differ.
-/
theorem secrets_do_not_show {server twin : Server} (config : Config) (password : String)
    (servers : server.Twin twin) (actions : List Action) :
    List.Forall₂
      (fun first second : Step Session Sight =>
        first.result = second.result ∧ first.state.now = second.state.now ∧
          logsOf first.events = logsOf second.events ∧
          List.Forall₂ Alike first.events second.events)
      (views config server actions .start)
      (views (config.withPassword password) twin actions .start) := by
  have viewed : List.Forall₂ (Twins Eq) (views config server actions .start)
      (views (config.withPassword password) twin actions .start) :=
    views_twins servers actions (.refl .start)
  refine viewed.imp fun first second twins => ?_
  exact ⟨twins.result, twins.state.now.symm, logsOf_eq_of_alike twins.events, twins.events⟩

end Views

/-! ## Two clients with secrets of their own -/

namespace Rotation

def firstText : String :=
  "\x7b\"return\":[\x7b\"token\":\"t0\"\x7d]\x7d"

def secondText : String :=
  "\x7b\"return\":[\x7b\"token\":\"s1\"\x7d]\x7d"

def server : Server :=
  { Retry.server with login := .ofList .drop [Retry.reply firstText] }

def twin : Server :=
  { Retry.server with login := .ofList .drop [Retry.reply secondText] }

theorem grants_first : Answer.Grants ⟨200, Text.Utf8.encode firstText⟩ := by
  have decoded : loginShape.decode (Answer.text ⟨200, Text.Utf8.encode firstText⟩) =
      .ok [some "t0"] := by cbv
  exact ⟨rfl, [some "t0"], "t0", decoded, rfl, by decide⟩

theorem grants_second : Answer.Grants ⟨200, Text.Utf8.encode secondText⟩ := by
  have decoded : loginShape.decode (Answer.text ⟨200, Text.Utf8.encode secondText⟩) =
      .ok [some "s1"] := by cbv
  exact ⟨rfl, [some "s1"], "s1", decoded, rfl, by decide⟩

theorem server_twin : server.Twin twin := by
  refine ⟨?_, rfl, rfl⟩
  intro count
  have first : server.login.answer count = Retry.reply firstText := by cases count <;> rfl
  have second : twin.login.answer count = Retry.reply secondText := by cases count <;> rfl
  rw [first, second]
  exact .answer (.inr ⟨grants_first, grants_second⟩)

def actions : List Action :=
  [.debug, .extract Retry.query 3, .ask Retry.query, .debug]

/-- The clients log in with other passwords and get other tokens, which nothing else shows. -/
theorem tokens_do_not_show :
    server.Twin twin ∧ server.granted 100 0 ≠ twin.granted 100 0 ∧
      List.Forall₂ (fun first second : Step Session Sight => first.result = second.result)
        (views Deadline.config server actions .start)
        (views (Deadline.config.withPassword "letmein") twin actions .start) := by
  have granted : server.granted 100 0 = some "t0" := by cbv
  have other : twin.granted 100 0 = some "s1" := by cbv
  refine ⟨server_twin, ?_, ?_⟩
  · rw [granted, other]
    decide
  · exact (secrets_do_not_show Deadline.config "letmein" server_twin actions).imp
      fun first second shown => shown.1

end Rotation

end PillarLookup.SaltApi
