import PillarLookup.Proofs.SaltApi.Waiting

/-!
# The course of a query

Everything that one query can do: stop at the login, stop at the publication, or
go on to what the reply to the publication says. A wait for a job touches nothing
but the clock and the count of lookups, and sends nothing but lookups of that job.
-/

namespace PillarLookup.SaltApi

/-! ## Waiting changes little -/

/-- A step from a session that sends nothing but lookups of a job. -/
structure OnlyLooksUp {α : Type} (job : Job) (session : Session) (step : Step Session α) :
    Prop where
  token_eq : step.state.token = session.token
  logins_eq : step.state.logins = session.logins
  publishes_eq : step.state.publishes = session.publishes
  lookups_eq : step.state.lookups = session.lookups + (requestsOf step.events).length
  posts : ∀ request ∈ requestsOf step.events,
    Posts (some job.token) (lookupBody job.id) request

namespace OnlyLooksUp

variable {α β γ : Type} {job : Job} {session : Session} {first : Step Session α}
  {second : Step Session β} {whole : Step Session γ}

theorem congr (looks : OnlyLooksUp job session first) (state : whole.state = first.state)
    (sent : requestsOf whole.events = requestsOf first.events) :
    OnlyLooksUp job session whole := by
  obtain ⟨token, logins, publishes, lookups, posts⟩ := looks
  rw [← state] at token logins publishes lookups
  rw [← sent] at lookups posts
  exact ⟨token, logins, publishes, lookups, posts⟩

theorem trans (looks : OnlyLooksUp job session first)
    (later : OnlyLooksUp job first.state second) (state : whole.state = second.state)
    (sent : requestsOf whole.events = requestsOf first.events ++ requestsOf second.events) :
    OnlyLooksUp job session whole := by
  constructor
  · rw [state, later.token_eq, looks.token_eq]
  · rw [state, later.logins_eq, looks.logins_eq]
  · rw [state, later.publishes_eq, looks.publishes_eq]
  · rw [state, later.lookups_eq, looks.lookups_eq, sent, List.length_append, Nat.add_assoc]
  · rw [sent]
    intro request listed
    rcases List.mem_append.mp listed with before | after
    · exact looks.posts request before
    · exact later.posts request after

/-- The time at which a step starts does not matter for what it looks up. -/
theorem of_now {now : Nat} (looks : OnlyLooksUp job { session with now := now } first) :
    OnlyLooksUp job session first :=
  ⟨looks.token_eq, looks.logins_eq, looks.publishes_eq, looks.lookups_eq, looks.posts⟩

end OnlyLooksUp

section Waits

variable (config : Config) (server : Server) (job : Job) (deadline : Nat) (session : Session)

theorem onlyLooksUp_send (url : Url) (limit : Nat) :
    OnlyLooksUp job session (send server .lookUp
      (request url (some job.token) (lookupBody job.id) session) limit session) := by
  rw [send]
  split
  · exact ⟨rfl, rfl, rfl, rfl, by simp⟩
  · refine ⟨rfl, rfl, rfl, rfl, ?_⟩
    intro sent member
    rw [requestsOf_sent, requestsOf_nil, List.mem_singleton] at member
    exact member ▸ posts_request url (some job.token) (lookupBody job.id) session

theorem onlyLooksUp_lookUp :
    OnlyLooksUp job session (lookUp config server job deadline session) := by
  rw [lookUp]
  cases prepared : prepare config .lookUp (some job.token) with
  | error error => exact ⟨rfl, rfl, rfl, rfl, by simp⟩
  | ok url =>
      dsimp only
      have looks := onlyLooksUp_send server job session url
        (min (lookupLimit config) (deadline - session.now))
      split
      · exact looks.congr rfl rfl
      · split
        · exact looks.congr rfl rfl
        · refine looks.congr rfl ?_
          rw [requestsOf_append, requestsOf_answerEvents, List.append_nil]

/-- Whatever the poll interval, each turn of a wait only looks up. -/
theorem onlyLooksUp_waitFrom (returns : Members Json) :
    OnlyLooksUp job session (waitFrom config server job deadline returns session) := by
  induction returns, session using waitFrom.induct config server job deadline with
  | case1 returns session look error failed =>
      rw [waitFrom_of_failed failed]
      exact (onlyLooksUp_lookUp config server job deadline session).congr rfl rfl
  | case2 returns session look found answered current missing complete =>
      rw [waitFrom_of_found answered, if_pos complete]
      have looks := onlyLooksUp_lookUp config server job deadline session
      exact looks.congr rfl (requestsOf_turnEvents _ _)
  | case3 returns session look found answered current missing incomplete ended =>
      rw [waitFrom_of_found answered, if_neg incomplete, if_pos ended]
      have looks := onlyLooksUp_lookUp config server job deadline session
      refine looks.congr rfl ?_
      rw [requestsOf_append, requestsOf_turnEvents, requestsOf_logged, requestsOf_nil,
        List.append_nil]
  | case4 returns session look found answered current missing incomplete early ih =>
      rw [waitFrom_of_found answered, if_neg incomplete, if_neg early]
      have looks := onlyLooksUp_lookUp config server job deadline session
      refine looks.trans ih.of_now rfl ?_
      rw [Step.after_events, requestsOf_append, requestsOf_append, requestsOf_turnEvents,
        requestsOf_logged, requestsOf_nil, List.append_nil]

end Waits

/-! ## What a publication leads to -/

/-- A reply that carries no job and is not the empty object. -/
def IsIncomplete (reply : Json) : Prop :=
  Publication.jobId? reply = none ∧ reply ≠ .obj []

theorem ofValue_eq_job_iff {reply : Json} {id : String} {minions : List String} :
    Publication.ofValue reply = .job id minions ↔
      Publication.jobId? reply = some id ∧ minions = stringsIn (reply.get? "minions") := by
  unfold Publication.ofValue
  cases Publication.jobId? reply with
  | some found =>
      simp only [Publication.job.injEq, Option.some.injEq]
      exact and_congr_right fun _ => eq_comm
  | none =>
      dsimp only
      split <;> simp

theorem ofValue_eq_incomplete_iff {reply : Json} {text : String} :
    Publication.ofValue reply = .incomplete text ↔ IsIncomplete reply ∧ text = reply.text := by
  unfold Publication.ofValue IsIncomplete
  cases Publication.jobId? reply with
  | some id => simp
  | none =>
      dsimp only
      split
      · simp
      · rename_i other
        simp only [Publication.incomplete.injEq, ne_eq, true_and]
        constructor
        · rintro rfl
          exact ⟨other, rfl⟩
        · rintro ⟨-, rfl⟩
          rfl

section Collecting

variable (config : Config) (server : Server) (token : String) (query : Query)
  (publication : Publication) (session : Session)

theorem collect_job (id : String) (minions : List String) :
    let waited := waitForReturns config server ⟨token, id, minions⟩ session
    let step := collect config server token query (.job id minions) session
    step.result = waited.result.map Collected.records ∧ step.state = waited.state ∧
      requestsOf step.events = requestsOf waited.events := by
  rw [collect]
  dsimp only
  cases result : (waitForReturns config server ⟨token, id, minions⟩ session).result with
  | error error =>
      rw [Step.andThen_error result]
      exact ⟨rfl, rfl, rfl⟩
  | ok collected =>
      rw [Step.andThen_ok result]
      refine ⟨rfl, rfl, ?_⟩
      simp

/-- Collecting changes what a wait changes, and sends nothing but lookups of the job. -/
theorem collect_frame :
    let step := collect config server token query publication session
    step.state.token = session.token ∧ step.state.logins = session.logins ∧
      step.state.publishes = session.publishes ∧
      step.state.lookups = session.lookups + (requestsOf step.events).length ∧
      ∀ request ∈ requestsOf step.events, ∃ id minions, publication = .job id minions ∧
        Posts (some token) (lookupBody id) request := by
  cases publication with
  | job id minions =>
      obtain ⟨-, state, sent⟩ := collect_job config server token query session id minions
      obtain ⟨held, logins, publishes, lookups, posts⟩ := onlyLooksUp_waitFrom config server
        ⟨token, id, minions⟩ (session.now + config.timeout) session []
      dsimp only at state sent ⊢
      rw [state, sent]
      refine ⟨held, logins, publishes, lookups, ?_⟩
      intro request member
      exact ⟨id, minions, rfl, posts request member⟩
  | noMinions => exact ⟨rfl, rfl, rfl, rfl, by simp [collect]⟩
  | incomplete reply => exact ⟨rfl, rfl, rfl, rfl, by simp [collect]⟩

/-- A single record stands for a reply without a job, and a job never ends in one. -/
theorem exists_incomplete_of_length_le_one {records : List Record}
    (result : (collect config server token query publication session).result = .ok records)
    (few : records.length ≤ 1) : ∃ reply, publication = .incomplete reply := by
  cases publication with
  | job id minions =>
      rw [(collect_job config server token query session id minions).1] at result
      cases waited : (waitForReturns config server ⟨token, id, minions⟩ session).result with
      | error error =>
          rw [waited] at result
          cases result
      | ok collected =>
          rw [waited] at result
          cases result
          simp [Collected.records] at few
  | noMinions =>
      cases result
      simp [Collected.records] at few
  | incomplete reply => exact ⟨reply, rfl⟩

end Collecting

/-! ## Authentication -/

section Queries

variable (config : Config) (server : Server) (query : Query) (session : Session)

/-- How a query comes by a token: it has one, or it logs in, if a login can be sent. -/
theorem authenticate_cases :
    let step := authenticate config server session
    (∃ token, session.token = some token ∧ step = .pure (.ok token) session) ∨
    (session.token = none ∧ ¬ Sendable config .logIn none config.timeout ∧
      step.state = session ∧ requestsOf step.events = [] ∧ ∃ error, step.result = .error error) ∨
    (session.token = none ∧ Sendable config .logIn none config.timeout ∧
      step.state = { session.awaited server .logIn config.timeout with
        token := server.granted config.timeout session.logins } ∧
      (∃ request, requestsOf step.events = [request] ∧ Posts none (loginBody config) request) ∧
      ∀ token, step.result = .ok token ↔
        server.granted config.timeout session.logins = some token) := by
  rw [authenticate]
  cases held : session.token with
  | some token => exact .inl ⟨token, rfl, rfl⟩
  | none =>
      refine .inr ?_
      by_cases sendable : Sendable config .logIn none config.timeout
      · obtain ⟨state, sent, result⟩ := logIn_of_sendable server session sendable
        refine .inr ⟨rfl, sendable, ?_, sent, result⟩
        rw [state, held, Option.or_none]
      · obtain ⟨error, events, silent, failed⟩ :=
          logIn_of_not_sendable server session sendable
        refine .inl ⟨rfl, sendable, ?_, ?_, error, ?_⟩
        · exact congrArg Step.state failed
        · rw [failed]
          exact silent
        · exact congrArg Step.result failed

/-- Coming by a token takes one login at most, and no login if there is a token. -/
theorem authenticate_frame :
    let step := authenticate config server session
    step.state.logins = session.logins + (requestsOf step.events).length ∧
      step.state.publishes = session.publishes ∧ step.state.lookups = session.lookups ∧
      (∀ token, step.result = .ok token → step.state.token = some token) ∧
      (requestsOf step.events).length ≤ 1 ∧
      (session.token ≠ none → requestsOf step.events = []) ∧
      ∀ request ∈ requestsOf step.events, Posts none (loginBody config) request := by
  rcases authenticate_cases config server session with
    ⟨token, held, step⟩ | ⟨empty, -, state, silent, error, failed⟩ |
    ⟨empty, -, state, ⟨request, sent, posts⟩, granted⟩
  · rw [step]
    refine ⟨rfl, rfl, rfl, ?_, Nat.zero_le 1, fun _ => rfl, by simp⟩
    rintro same ⟨⟩
    exact held
  · dsimp only
    rw [state, silent, failed]
    exact ⟨rfl, rfl, rfl, by simp, Nat.zero_le 1, fun _ => rfl, by simp⟩
  · dsimp only
    rw [state, sent]
    refine ⟨rfl, rfl, rfl, ?_, Nat.le_refl 1, fun cached => absurd empty cached, ?_⟩
    · intro token result
      exact (granted token).mp result
    · intro member listed
      exact List.mem_singleton.mp listed ▸ posts

/-! ## The whole query -/

/-- A query stops at the login, stops at the publication, or collects what was published. -/
theorem ask_cases :
    let step := ask config server query session
    let login := authenticate config server session
    (∃ error, login.result = .error error ∧
      step = ⟨.error error, login.state, login.events⟩) ∨
    (∃ token error, login.result = .ok token ∧
      ¬ Sendable config .publish (some token) config.timeout ∧
      step = ⟨.error error, login.state, login.events⟩) ∨
    (∃ token request, login.result = .ok token ∧
      Sendable config .publish (some token) config.timeout ∧
      Posts (some token) (publishBody query) request ∧
      let published := login.state.awaited server .publish config.timeout
      (∃ error, server.published config.timeout login.state.publishes = none ∧
        step.result = .error error ∧ step.state = published ∧
        requestsOf step.events = requestsOf login.events ++ [request]) ∨
      ∃ reply, server.published config.timeout login.state.publishes = some reply ∧
        let rest := collect config server token query (.ofValue reply) published
        step.result = rest.result ∧ step.state = rest.state ∧
        requestsOf step.events = requestsOf login.events ++ request :: requestsOf rest.events) := by
  rw [ask]
  cases authenticated : (authenticate config server session).result with
  | error error =>
      refine .inl ⟨error, authenticated, ?_⟩
      rw [Step.andThen_error authenticated]
  | ok token =>
      refine .inr ?_
      rw [Step.andThen_ok authenticated]
      by_cases sendable : Sendable config .publish (some token) config.timeout
      · obtain ⟨state, request, sent, posts⟩ := publish_of_sendable server
          (authenticate config server session).state query sendable
        refine .inr ⟨token, request, authenticated, sendable, posts, ?_⟩
        cases held : server.published config.timeout
            (authenticate config server session).state.publishes with
        | none =>
            cases result : (publish config server token query
                (authenticate config server session).state).result with
            | error error =>
                refine .inl ⟨error, rfl, ?_⟩
                rw [Step.andThen_error result]
                refine ⟨rfl, state, ?_⟩
                rw [Step.after_events, requestsOf_append, sent]
            | ok publication =>
                obtain ⟨-, reply, found, -⟩ := publish_eq_ok_iff.mp result
                rw [held] at found
                cases found
        | some reply =>
            have result : (publish config server token query
                (authenticate config server session).state).result = .ok (.ofValue reply) :=
              publish_eq_ok_iff.mpr ⟨sendable.1, reply, held, rfl⟩
            refine .inr ⟨reply, rfl, ?_⟩
            rw [Step.andThen_ok result, state]
            refine ⟨rfl, rfl, ?_⟩
            simp only [Step.after_events, requestsOf_append, sent, List.singleton_append]
      · obtain ⟨error, failed⟩ := publish_of_not_sendable server
          (authenticate config server session).state query sendable
        refine .inl ⟨token, error, authenticated, sendable, ?_⟩
        rw [failed, Step.andThen_error rfl]
        simp only [Step.after, List.append_nil]

/-- What follows the login leaves the token alone, and is sent with it. -/
theorem ask_after_login :
    let step := ask config server query session
    let login := authenticate config server session
    step.state.token = login.state.token ∧ step.state.logins = login.state.logins ∧
      ∃ rest, requestsOf step.events = requestsOf login.events ++ rest ∧
        ∀ request ∈ rest, ∃ token, login.result = .ok token ∧
          (Posts (some token) (publishBody query) request ∨
            ∃ id, Posts (some token) (lookupBody id) request) := by
  rcases ask_cases config server query session with
    ⟨error, -, step⟩ | ⟨token, error, -, -, step⟩ |
    ⟨token, request, authenticated, -, posts, published⟩
  · dsimp only
    rw [step]
    exact ⟨rfl, rfl, [], (List.append_nil _).symm, by simp⟩
  · dsimp only
    rw [step]
    exact ⟨rfl, rfl, [], (List.append_nil _).symm, by simp⟩
  · dsimp only at published ⊢
    rcases published with ⟨error, -, -, state, sent⟩ | ⟨reply, -, -, state, sent⟩
    · rw [state]
      refine ⟨rfl, rfl, [request], sent, ?_⟩
      intro member listed
      exact ⟨token, authenticated, .inl (List.mem_singleton.mp listed ▸ posts)⟩
    · obtain ⟨kept, logins, -, -, looked⟩ := collect_frame config server token query
        (.ofValue reply) ((authenticate config server session).state.awaited server .publish
          config.timeout)
      rw [state]
      refine ⟨kept, logins, _, sent, ?_⟩
      intro member listed
      rcases List.mem_cons.mp listed with rfl | lookup
      · exact ⟨token, authenticated, .inl posts⟩
      · obtain ⟨id, minions, -, asked⟩ := looked member lookup
        exact ⟨token, authenticated, .inr ⟨id, asked⟩⟩

/-- What the extraction gets is what the query comes to, with the text of an error. -/
theorem client_ask_eq_ok_iff {records : List Record} :
    ((client config server).ask query session).result = .ok records ↔
      (ask config server query session).result = .ok records := by
  rw [client]
  dsimp only
  cases (ask config server query session).result <;> simp [Except.mapError]

end Queries

end PillarLookup.SaltApi
