import PillarLookup.Proofs.Answers
import PillarLookup.Proofs.SaltApi.Stages

/-!
# The first exchange that fails

A query is a chain of exchanges: a login unless there is a token, a publication, and
the lookups of the job. The exchange that fails ends the chain: every other one before
it succeeds, no request is sent that belongs to none of them, and the error of the query
is that of the last. An extraction passes it on and asks no more.
-/

namespace PillarLookup.SaltApi

/-! ## The exchanges of a query -/

/-- The lookups of a wait of which `returns` has come back so far. -/
def lookupsFrom (config : Config) (server : Server) (job : Job) (deadline : Nat)
    (returns : Members Json) (session : Session) : List Exchange :=
  let look := lookUp config server job deadline session
  match _ : look.result with
  | .error _ => [.lookUp job deadline session]
  | .ok found =>
      let current := found.getD returns
      if job.missing current = [] then [.lookUp job deadline session]
      else if _ : deadline ≤ look.state.now then [.lookUp job deadline session]
      else
        .lookUp job deadline session ::
          lookupsFrom config server job deadline current
            { look.state with now := wakeTime config server deadline session look.state }
termination_by deadline - session.now + unseen server session
decreasing_by exact wake_decreases ‹_› (Nat.lt_of_not_le ‹_›)

/-- The lookups that follow a publication. -/
def lookupsAfter (config : Config) (server : Server) (token : String) (session : Session) :
    Publication → List Exchange
  | .job id minions =>
      lookupsFrom config server ⟨token, id, minions⟩ (session.now + config.timeout) [] session
  | _ => []

/-- The exchanges of a query that has a token. -/
def exchangesWith (config : Config) (server : Server) (query : Query) (token : String)
    (session : Session) : List Exchange :=
  let published := publish config server token query session
  .publish token query session ::
    match published.result with
    | .error _ => []
    | .ok publication => lookupsAfter config server token published.state publication

/-- The exchanges that a query makes, in their order. -/
def exchanges (config : Config) (server : Server) (query : Query) (session : Session) :
    List Exchange :=
  match session.token with
  | some token => exchangesWith config server query token session
  | none =>
      let login := logIn config server session
      .logIn session ::
        match login.result with
        | .error _ => []
        | .ok token => exchangesWith config server query token login.state

/-! ## A chain of exchanges -/

section Chains

variable {config : Config} {server : Server} {query : Query} {session : Session}

/-- What ends a query at an exchange: its failure, or a login without a token. -/
def Exchange.Breaks (config : Config) (server : Server) (made : Exchange) (error : ApiError) :
    Prop :=
  made.ending config server = .failed error ∨
    (error = .missingToken ∧ made.LacksToken config server)

/-- A query goes on after an exchange. -/
def Exchange.LeadsOn (config : Config) (server : Server) (made : Exchange) : Prop :=
  made.ending config server = .succeeded ∧ ¬ made.LacksToken config server

/--
A step makes these exchanges and sends no request but theirs. It goes on after each of
them but the last, and the last decides whether it fails.
-/
structure Makes {α : Type} (config : Config) (server : Server)
    (step : Step Session (Except ApiError α)) (made : List Exchange) : Prop where
  near : ∀ exchange ∈ made, exchange.IsNear config
  sent : requestsOf step.events = made.flatMap (Exchange.requests config)
  ends : ∃ before last, made = before ++ [last] ∧
    (∀ exchange ∈ before, exchange.LeadsOn config server) ∧
    ∀ error, step.result = .error error ↔ last.Breaks config server error

namespace Makes

variable {α β : Type} {step : Step Session (Except ApiError α)}
  {rest : Step Session (Except ApiError β)} {first : Exchange} {more : List Exchange}

theorem single (near : first.IsNear config)
    (sent : requestsOf step.events = first.requests config)
    (ends : ∀ error, step.result = .error error ↔ first.Breaks config server error) :
    Makes config server step [first] := by
  refine ⟨?_, ?_, [], first, rfl, ?_, ends⟩
  · simpa using near
  · rw [sent, List.flatMap_singleton]
  · simp

theorem cons (made : Makes config server rest more) (near : first.IsNear config)
    (goesOn : first.LeadsOn config server)
    (sent : requestsOf step.events = first.requests config ++ requestsOf rest.events)
    (same : ∀ error, step.result = .error error ↔ rest.result = .error error) :
    Makes config server step (first :: more) := by
  obtain ⟨nearby, later, before, last, rfl, goOn, ends⟩ := made
  refine ⟨?_, ?_, first :: before, last, rfl, ?_, ?_⟩
  · simpa [near] using nearby
  · rw [sent, later, List.flatMap_cons]
  · simpa [goesOn] using goOn
  · exact fun error => (same error).trans (ends error)

/-- The exchanges before the last one succeed, and its failure is that of the step. -/
theorem ends_with_last (made : Makes config server step more) (polls : 0 < config.pollInterval) :
    ∃ before last, more = before ++ [last] ∧
      (∀ exchange ∈ before,
        exchange.Succeeds config server ∧ ¬ exchange.LacksToken config server) ∧
      ∀ error, step.result = .error error ↔ last.Fails config server error ∨
        (error = .missingToken ∧ last.LacksToken config server) := by
  obtain ⟨near, -, before, last, rfl, goOn, ends⟩ := made
  refine ⟨before, last, rfl, ?_, ?_⟩
  · intro exchange listed
    have close := near exchange (List.mem_append_left _ listed)
    exact ⟨(exchange.ending_iff polls close).1.mp (goOn exchange listed).1,
      (goOn exchange listed).2⟩
  · intro error
    have close := near last (List.mem_append_right _ (List.mem_singleton_self last))
    rw [ends, Exchange.Breaks, (last.ending_iff polls close).2.1]

/-- No exchange but the last one can be what a step fails with. -/
theorem failed_iff (made : Makes config server step more) (polls : 0 < config.pollInterval)
    (error : ApiError) :
    step.result = .error error ↔
      (∃ exchange ∈ more, exchange.Fails config server error) ∨
        (error = .missingToken ∧ ∃ exchange ∈ more, exchange.LacksToken config server) := by
  obtain ⟨before, last, rfl, spent, ends⟩ := made.ends_with_last polls
  have spared : ∀ exchange ∈ before, ¬ exchange.Fails config server error :=
    fun exchange listed => (spent exchange listed).1.not_fails
  have granted : ∀ exchange ∈ before, ¬ exchange.LacksToken config server :=
    fun exchange listed => (spent exchange listed).2
  rw [ends]
  simp only [List.mem_append, List.mem_singleton, or_and_right, exists_or, exists_eq_left]
  refine or_congr ?_ (and_congr_right fun _ => ?_)
  · refine (or_iff_right ?_).symm
    rintro ⟨exchange, listed, fails⟩
    exact spared exchange listed fails
  · refine (or_iff_right ?_).symm
    rintro ⟨exchange, listed, lacks⟩
    exact granted exchange listed lacks

end Makes

variable {job : Job} {deadline : Nat} {returns : Members Json}

theorem lookupsFrom_of_failed {error : ApiError}
    (failed : (lookUp config server job deadline session).result = .error error) :
    lookupsFrom config server job deadline returns session = [.lookUp job deadline session] := by
  rw [lookupsFrom]
  split
  · rfl
  · rename_i found same
    rw [failed] at same
    cases same

theorem lookupsFrom_of_found {found : Option (Members Json)}
    (answered : (lookUp config server job deadline session).result = .ok found) :
    let look := lookUp config server job deadline session
    let current := found.getD returns
    lookupsFrom config server job deadline returns session =
      if job.missing current = [] then [.lookUp job deadline session]
      else if deadline ≤ look.state.now then [.lookUp job deadline session]
      else
        .lookUp job deadline session ::
          lookupsFrom config server job deadline current
            { look.state with now := wakeTime config server deadline session look.state } := by
  rw [lookupsFrom]
  split
  · rename_i error same
    rw [answered] at same
    cases same
  · rename_i other same
    rw [answered] at same
    cases same
    rfl

theorem breaks_lookUp_iff {error : ApiError} :
    (Exchange.lookUp job deadline session).Breaks config server error ↔
      (lookUp config server job deadline session).result = .error error := by
  rw [Exchange.Breaks, Exchange.ending, Exchange.LacksToken]
  cases (lookUp config server job deadline session).result with
  | error first => simp
  | ok found => cases found <;> simp

theorem leadsOn_lookUp {items : Members Json}
    (answered : (lookUp config server job deadline session).result = .ok (some items)) :
    (Exchange.lookUp job deadline session).LeadsOn config server := by
  rw [Exchange.LeadsOn, Exchange.ending, answered]
  exact ⟨rfl, not_false⟩

/-- A wait makes one lookup per turn; an abandoned one is the last, since it is over with it. -/
theorem waitFrom_makes (polls : 0 < config.pollInterval)
    (near : deadline ≤ session.now + config.timeout) :
    Makes config server (waitFrom config server job deadline returns session)
      (lookupsFrom config server job deadline returns session) := by
  induction returns, session using waitFrom.induct config server job deadline with
  | case1 returns session look error failed =>
      rw [waitFrom_of_failed failed, lookupsFrom_of_failed failed]
      refine .single near (requestsOf_lookUp polls near) fun other => ?_
      rw [breaks_lookUp_iff, failed]
      simp
  | case2 returns session look found answered current missing complete =>
      rw [waitFrom_of_found answered, lookupsFrom_of_found answered, if_pos complete,
        if_pos complete]
      refine .single near ?_ fun error => ?_
      · exact (requestsOf_turnEvents _ _).trans (requestsOf_lookUp polls near)
      · rw [breaks_lookUp_iff, answered]
        simp
  | case3 returns session look found answered current missing incomplete ended =>
      rw [waitFrom_of_found answered, lookupsFrom_of_found answered, if_neg incomplete,
        if_neg incomplete, if_pos ended, if_pos ended]
      refine .single near ?_ fun error => ?_
      · rw [requestsOf_append, requestsOf_turnEvents]
        exact (List.append_nil _).trans (requestsOf_lookUp polls near)
      · rw [breaks_lookUp_iff, answered]
        simp
  | case4 returns session look found answered current missing incomplete early ih =>
      rw [waitFrom_of_found answered, lookupsFrom_of_found answered, if_neg incomplete,
        if_neg incomplete, if_neg early, if_neg early]
      have later := now_le_lookUp config server job deadline session
      have wakes := le_wakeTime config server session (Nat.le_of_not_le early)
      refine (ih ?_).cons near ?_ ?_ fun error => Iff.rfl
      · exact Nat.le_trans near (Nat.add_le_add_right (Nat.le_trans later wakes) _)
      · cases found with
        | none => exact absurd (le_now_of_abandoned answered) early
        | some items => exact leadsOn_lookUp answered
      · rw [Step.after_events, requestsOf_append, requestsOf_append, requestsOf_turnEvents,
          requestsOf_lookUp polls near]
        exact congrArg (· ++ _) (List.append_nil _)

theorem ofResult_eq_failed_iff {α : Type} {result : Except ApiError α} {error : ApiError} :
    Ending.ofResult result = .failed error ↔ result = .error error := by
  cases result <;> simp [Ending.ofResult]

theorem breaks_publish_iff {token : String} {error : ApiError} :
    (Exchange.publish token query session).Breaks config server error ↔
      (publish config server token query session).result = .error error := by
  rw [Exchange.Breaks, Exchange.ending, Exchange.LacksToken, ofResult_eq_failed_iff, publish_eq,
    Step.andThen_result_error_iff]
  simp

theorem requestsOf_publish (token : String) :
    requestsOf (publish config server token query session).events =
      (Exchange.publish token query session).requests config := by
  rw [publish_eq, Step.andThen_pure_events]
  exact (exchange_settles server (.publish token query session) fun _ => rfl).2

theorem leadsOn_publish {token : String} {publication : Publication}
    (published : (publish config server token query session).result = .ok publication) :
    (Exchange.publish token query session).LeadsOn config server := by
  obtain ⟨values, result, -⟩ := Step.andThen_result_ok_iff.mp published
  rw [Exchange.LeadsOn, Exchange.ending]
  exact ⟨congrArg Ending.ofResult result, not_false⟩

/-- A publication without a job ends a query. -/
theorem publish_makes_of_done {token : String} {publication : Publication}
    (published : (publish config server token query session).result = .ok publication)
    {rest : Step Session (Except ApiError (List Record))} {records : List Record}
    (done : rest.result = .ok records) (silent : requestsOf rest.events = []) :
    Makes config server (rest.after (publish config server token query session).events)
      [.publish token query session] := by
  refine .single trivial ?_ fun error => ?_
  · rw [Step.after_events, requestsOf_append, silent, List.append_nil]
    exact requestsOf_publish token
  · rw [breaks_publish_iff, published, Step.after_result, done]
    simp

theorem exchangesWith_makes (polls : 0 < config.pollInterval) (token : String) :
    Makes config server
      ((publish config server token query session).andThen fun publication session =>
        collect config server token query publication session)
      (exchangesWith config server query token session) := by
  rw [exchangesWith]
  cases published : (publish config server token query session).result with
  | error error =>
      rw [Step.andThen_error published]
      refine .single trivial (requestsOf_publish token) fun other => ?_
      rw [breaks_publish_iff, published]
      simp
  | ok publication =>
      rw [Step.andThen_ok published]
      cases publication with
      | job id minions =>
          obtain ⟨result, -, looked⟩ := collect_job config server token query
            (publish config server token query session).state id minions
          refine Makes.cons (waitFrom_makes polls (Nat.le_refl _)) trivial
            (leadsOn_publish published) ?_ fun error => ?_
          · rw [Step.after_events, requestsOf_append, looked, requestsOf_publish]
            rfl
          · rw [Step.after_result, result, ← waitForReturns]
            cases (waitForReturns config server ⟨token, id, minions⟩
              (publish config server token query session).state).result <;> simp [Except.map]
      | noMinions => exact publish_makes_of_done published rfl rfl
      | incomplete reply => exact publish_makes_of_done published rfl rfl

theorem keepToken_eq_error_iff {logins : List (Option String)} {error : ApiError} :
    (keepToken logins session).result = .error error ↔
      error = .missingToken ∧ logins.head?.bind id = none := by
  rw [keepToken]
  cases logins.head?.bind id with
  | none => simp [eq_comm]
  | some token => simp

theorem keepToken_events (logins : List (Option String)) :
    (keepToken logins session).events = [] := by
  rw [keepToken]
  split <;> rfl

theorem lacksToken_iff :
    (Exchange.logIn session).LacksToken config server ↔
      ∃ logins, (exchange config server .logIn loginShape none (loginBody config) config.timeout
        session).result = .ok logins ∧ logins.head?.bind id = none := by
  simp only [Exchange.LacksToken, exchange_eq_ok_iff, and_assoc]
  exact exists_and_left.symm

theorem breaks_logIn_iff {error : ApiError} :
    (Exchange.logIn session).Breaks config server error ↔
      (logIn config server session).result = .error error := by
  rw [Exchange.Breaks, Exchange.ending, lacksToken_iff, ofResult_eq_failed_iff, logIn_eq,
    Step.after_result, Step.andThen_result_error_iff, ← exists_and_left]
  refine or_congr_right (exists_congr fun logins => ?_)
  rw [keepToken_eq_error_iff]
  exact and_left_comm

theorem requestsOf_logIn :
    requestsOf (logIn config server session).events =
      (Exchange.logIn session).requests config := by
  refine Eq.trans ?_ (exchange_settles server (.logIn session) fun _ => rfl).2
  rw [logIn_eq, Step.after_events]
  cases result : (exchange config server .logIn loginShape none (loginBody config)
      config.timeout session).result with
  | error error =>
      rw [Step.andThen_error result]
      rfl
  | ok logins =>
      rw [Step.andThen_ok result, Step.after_events, keepToken_events, List.append_nil]
      rfl

theorem leadsOn_logIn {token : String}
    (granted : (logIn config server session).result = .ok token) :
    (Exchange.logIn session).LeadsOn config server := by
  obtain ⟨logins, result, kept⟩ := Step.andThen_result_ok_iff.mp granted
  refine ⟨congrArg Ending.ofResult result, ?_⟩
  rw [lacksToken_iff]
  rintro ⟨others, same, lacking⟩
  cases result.symm.trans same
  change (keepToken logins _).result = _ at kept
  rw [keepToken_eq_error_iff.mpr ⟨rfl, lacking⟩] at kept
  cases kept

theorem ask_makes (server : Server) (query : Query) (session : Session)
    (polls : 0 < config.pollInterval) :
    Makes config server (ask config server query session)
      (exchanges config server query session) := by
  rw [ask, authenticate, exchanges]
  cases session.token with
  | some token => exact exchangesWith_makes polls token
  | none =>
      dsimp only
      cases login : (logIn config server session).result with
      | error error =>
          rw [Step.andThen_error login]
          refine .single trivial requestsOf_logIn fun other => ?_
          rw [breaks_logIn_iff, login]
          simp
      | ok token =>
          rw [Step.andThen_ok login]
          refine (exchangesWith_makes polls token).cons trivial (leadsOn_logIn login) ?_
            fun error => Iff.rfl
          rw [Step.after_events, requestsOf_append, requestsOf_logIn]

end Chains

/-! ## The first fault -/

/--
An exchange fails at its first stage that goes wrong and is terminal for the query. Each
exchange of a query succeeds if its request can be built and a reply comes in time that is
a success and decodes as a whole; otherwise it fails with the error of the first stage that
is in the way, or is a lookup given up at the deadline. A query fails if an exchange fails
or the login yields no token, with the error of that exchange, which is the last one: those
before it succeed, and nothing else is sent. An extraction ends with that error on the spot,
whatever its earlier attempts came to.
-/
theorem failing_exchange_is_final {config : Config} (server : Server) (query : Query)
    (session : Session) (polls : 0 < config.pollInterval) :
    let step := ask config server query session
    let made := exchanges config server query session
    let asked := client config server
    (∀ exchange ∈ made,
      (exchange.ending config server = .succeeded ↔ exchange.Succeeds config server) ∧
      (∀ error, exchange.ending config server = .failed error ↔
        exchange.Fails config server error) ∧
      (exchange.ending config server = .abandoned ↔ exchange.Abandoned config server)) ∧
    (∀ error, step.result = .error error ↔
      (∃ exchange ∈ made, exchange.Fails config server error) ∨
        (error = .missingToken ∧ ∃ exchange ∈ made, exchange.LacksToken config server)) ∧
    (∃ before last, made = before ++ [last] ∧
      (∀ exchange ∈ before,
        exchange.Succeeds config server ∧ ¬ exchange.LacksToken config server) ∧
      ∀ error, step.result = .error error ↔ last.Fails config server error ∨
        (error = .missingToken ∧ last.LacksToken config server)) ∧
    requestsOf step.events = made.flatMap (Exchange.requests config) ∧
    ∀ most attempt error, attempt < most →
      (∀ earlier < attempt, ¬ IsFinal (asked.answer query session earlier)) →
      (ask config server query (asked.stateAfter query session attempt)).result = .error error →
      extract asked query most session =
          ⟨.error (.client error.message), asked.stateAfter query session (attempt + 1),
            (List.range (attempt + 1)).flatMap (asked.attemptEvents query session most)⟩ ∧
        Failure.exitCode (.client error.message) = 1 := by
  have made := ask_makes server query session polls
  refine ⟨?_, made.failed_iff polls, made.ends_with_last polls, made.sent, ?_⟩
  · exact fun exchange listed => exchange.ending_iff polls (made.near exchange listed)
  · intro most attempt error within earlier failed
    have answered : (client config server).answer query session attempt = .error error.message :=
      congrArg (Except.mapError ApiError.message) failed
    have isLast : (client config server).IsLast query session most attempt :=
      ⟨within, earlier, .inl (answered ▸ trivial)⟩
    rw [extract_of_isLast isLast, answered]
    exact ⟨rfl, rfl⟩

/-! ## A refusal in the middle of a wait -/

namespace Refusal

/-- Everything that was asked for, but under a status that is no success. -/
def lateText : String :=
  "\x7b\"return\":[\x7b\"db\":1,\"web\":2\x7d]\x7d"

def server : Server :=
  { Silence.server with
    lookup := .ofList .drop
      [Retry.reply "\x7b\"return\":[\x7b\"db\":1\x7d]\x7d",
        .answer 10 500 (Text.Utf8.encode lateText)] }

def error : ApiError :=
  .httpStatus .lookUp 500 lateText

theorem wait_fails (session : Session) (first : session.lookups = 0) :
    (waitForReturns Deadline.config server ⟨"t0", "7", ["web", "db", "web"]⟩ session).result =
      .error error := by
  let watch : Watch :=
    ⟨Deadline.config, server, ⟨"t0", "7", ["web", "db", "web"]⟩, Deadline.config.url, 0⟩
  have answered : watch.verdict 0 = .answered [("db", .int 1)] := by cbv
  have refused : watch.verdict 1 = .failed error := by cbv
  have reaches : watch.Reaches 1 := by
    intro before less
    obtain rfl := Nat.lt_one_iff.mp less
    exact (watch.continues_iff 0).mpr (.inr ⟨_, answered, by decide⟩)
  have stands : watch.Stands session.now 0 session := ⟨rfl, fun _ => first⟩
  have prepared : prepare Deadline.config .lookUp (some "t0") = .ok Deadline.config.url := by rfl
  exact (watch.resume_of_failed prepared (by decide) stands reaches refused).1

theorem ask_fails :
    (ask Deadline.config server Retry.query Silence.session).result = .error error := by
  have authenticated :
      (authenticate Deadline.config server Silence.session).result = .ok "t0" := rfl
  have prepared : prepare Deadline.config .publish (some "t0") = .ok Deadline.config.url := by rfl
  have held : server.published Deadline.config.timeout Silence.session.publishes =
      some Silence.job := Silence.published_job
  obtain ⟨middle, -, -, lookups, result, -⟩ :=
    ask_of_published Retry.query authenticated ⟨_, prepared⟩ held
  have job : Publication.ofValue Silence.job = .job "7" ["web", "db", "web"] := rfl
  rw [result, job, (collect_job ..).1, wait_fails middle lookups]
  rfl

/-- The second lookup is refused, so that the map of the first is lost with it. -/
theorem extract_ends_at_refusal :
    0 < Deadline.config.pollInterval ∧
      (extract (client Deadline.config server) Retry.query 3 Silence.session).result =
        .error (.client error.message) := by
  have polls : 0 < Deadline.config.pollInterval := by decide
  obtain ⟨-, -, -, -, ends⟩ :=
    failing_exchange_is_final server Retry.query Silence.session polls
  obtain ⟨run, -⟩ := ends 3 0 error (Nat.succ_pos 2) (by simp) ask_fails
  exact ⟨polls, congrArg Step.result run⟩

end Refusal

end PillarLookup.SaltApi
