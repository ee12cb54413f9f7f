import PillarLookup.Proofs.Extraction
import PillarLookup.Proofs.SaltApi.Course

/-!
# How long a query takes

A login, a publication and a wait take one timeout each at most. The loop of a wait
comes to an end by itself, as the clock gains a poll interval with every turn until it
reaches the deadline. The limit of a single lookup is never what ends it.
-/

namespace PillarLookup.SaltApi

/-! ## The clock -/

theorem awaited_now_le (server : Server) (task : Task) (limit : Nat) (session : Session) :
    (session.awaited server task limit).now ≤ session.now + limit := by
  rw [Session.awaited, now_countUp]
  exact Nat.add_le_add_left (Reply.span_le _ _) _

/-- The time that may pass until there is a token. -/
def loginTime (config : Config) (session : Session) : Nat :=
  if session.token.isSome then 0 else config.timeout

theorem loginTime_le (config : Config) (session : Session) :
    loginTime config session ≤ config.timeout := by
  rw [loginTime]
  split
  · exact Nat.zero_le _
  · exact Nat.le_refl _

section Clock

variable (config : Config) (server : Server) (query : Query) (session : Session)

theorem authenticate_now_le :
    (authenticate config server session).state.now ≤ session.now + loginTime config session := by
  rw [loginTime]
  rcases authenticate_cases config server session with
    ⟨token, held, step⟩ | ⟨empty, -, state, -⟩ | ⟨empty, -, state, -⟩
  · rw [step]
    exact Nat.le_add_right _ _
  · rw [state]
    exact Nat.le_add_right _ _
  · rw [state, empty]
    exact awaited_now_le server .logIn config.timeout session

theorem publish_now_le (token : String) :
    (publish config server token query session).state.now ≤ session.now + config.timeout := by
  by_cases sendable : Sendable config .publish (some token) config.timeout
  · rw [(publish_of_sendable server session query sendable).1]
    exact awaited_now_le server .publish config.timeout session
  · obtain ⟨error, failed⟩ := publish_of_not_sendable server session query sendable
    rw [failed]
    exact Nat.le_add_right _ _

/-- Publishing leaves the token and the count of lookups alone. -/
theorem publish_frame (token : String) :
    let step := publish config server token query session
    step.state.token = session.token ∧ step.state.lookups = session.lookups := by
  by_cases sendable : Sendable config .publish (some token) config.timeout
  · dsimp only
    rw [(publish_of_sendable server session query sendable).1]
    exact ⟨rfl, rfl⟩
  · obtain ⟨error, failed⟩ := publish_of_not_sendable server session query sendable
    dsimp only
    rw [failed]
    exact ⟨rfl, rfl⟩

section Waits

variable {config server session} {job : Job} {deadline : Nat}

theorem lookUp_now_le (before : session.now ≤ deadline) :
    (lookUp config server job deadline session).state.now ≤ deadline := by
  rw [lookUp]
  cases prepare config .lookUp (some job.token) with
  | error error => exact before
  | ok url =>
      have waited := send_now_le server .lookUp
        (request url (some job.token) (lookupBody job.id) session)
        (min (lookupLimit config) (deadline - session.now)) session
      have within : session.now + min (lookupLimit config) (deadline - session.now) ≤ deadline := by
        omega
      dsimp only
      split
      · exact Nat.le_trans waited within
      · split <;> exact Nat.le_trans waited within

theorem wakeTime_le (config : Config) (server : Server) (deadline : Nat)
    (before after : Session) : wakeTime config server deadline before after ≤ deadline := by
  rw [wakeTime]
  split
  · exact Nat.le_refl deadline
  · exact Nat.min_le_left _ _

theorem le_wakeTime (config : Config) (server : Server) (before : Session) {after : Session}
    (early : after.now ≤ deadline) : after.now ≤ wakeTime config server deadline before after := by
  rw [wakeTime]
  split
  · exact early
  · exact Nat.le_min.mpr ⟨early, Nat.le_add_right _ _⟩

/-- A wait is over at its deadline. -/
theorem waitFrom_now_le (returns : Members Json) (before : session.now ≤ deadline) :
    (waitFrom config server job deadline returns session).state.now ≤ deadline := by
  induction returns, session using waitFrom.induct config server job deadline with
  | case1 returns session look error failed =>
      rw [waitFrom_of_failed failed]
      exact lookUp_now_le before
  | case2 returns session look found answered current missing complete =>
      rw [waitFrom_of_found answered, if_pos complete]
      exact lookUp_now_le before
  | case3 returns session look found answered current missing incomplete ended =>
      rw [waitFrom_of_found answered, if_neg incomplete, if_pos ended]
      exact lookUp_now_le before
  | case4 returns session look found answered current missing incomplete early ih =>
      rw [waitFrom_of_found answered, if_neg incomplete, if_neg early]
      exact ih (wakeTime_le config server deadline session look.state)

theorem waitForReturns_now_le (config : Config) (server : Server) (job : Job)
    (session : Session) :
    (waitForReturns config server job session).state.now ≤ session.now + config.timeout :=
  waitFrom_now_le [] (Nat.le_add_right _ _)

end Waits

theorem collect_now_le (token : String) (publication : Publication) :
    (collect config server token query publication session).state.now ≤
      session.now + config.timeout := by
  cases publication with
  | job id minions =>
      rw [(collect_job config server token query session id minions).2.1]
      exact waitForReturns_now_le config server ⟨token, id, minions⟩ session
  | noMinions => exact Nat.le_add_right _ _
  | incomplete reply => exact Nat.le_add_right _ _

/-! ## Queries and extractions -/

/-- The stages of a query, each with its own events. -/
theorem ask_stages :
    let step := ask config server query session
    let login := authenticate config server session
    (∃ error, login.result = .error error ∧
      step = ⟨.error error, login.state, login.events⟩) ∨
    (∃ token error, login.result = .ok token ∧
      let published := publish config server token query login.state
      published.result = .error error ∧
      step = ⟨.error error, published.state, login.events ++ published.events⟩) ∨
    ∃ token publication, login.result = .ok token ∧
      let published := publish config server token query login.state
      let rest := collect config server token query publication published.state
      published.result = .ok publication ∧
      step = ⟨rest.result, rest.state, login.events ++ (published.events ++ rest.events)⟩ := by
  rw [ask]
  cases authenticated : (authenticate config server session).result with
  | error error => exact .inl ⟨error, authenticated, Step.andThen_error authenticated _⟩
  | ok token =>
      refine .inr ?_
      rw [Step.andThen_ok authenticated]
      cases published : (publish config server token query
          (authenticate config server session).state).result with
      | error error =>
          refine .inl ⟨token, error, authenticated, published, ?_⟩
          rw [Step.andThen_error published]
          rfl
      | ok publication =>
          refine .inr ⟨token, publication, authenticated, published, ?_⟩
          rw [Step.andThen_ok published]
          rfl

/-- A query that has to be repeated does not wait for a job, and leaves a token. -/
theorem ask_now_le :
    let step := ask config server query session
    step.state.now ≤ session.now + loginTime config session + 2 * config.timeout ∧
      ∀ records, step.result = .ok records → ¬ 1 < records.length →
        step.state.now ≤ session.now + loginTime config session + config.timeout ∧
          loginTime config step.state = 0 := by
  have login := authenticate_now_le config server session
  obtain ⟨-, -, -, cached, -⟩ := authenticate_frame config server session
  rcases ask_stages config server query session with
    ⟨error, -, step⟩ | ⟨token, error, -, -, step⟩ |
    ⟨token, publication, authenticated, -, step⟩
  · dsimp only
    rw [step]
    refine ⟨Nat.le_add_right_of_le login, ?_⟩
    rintro records ⟨⟩
  · have published := publish_now_le config server query
      (authenticate config server session).state token
    dsimp only
    rw [step]
    constructor
    · dsimp only
      omega
    · rintro records ⟨⟩
  · have published := publish_now_le config server query
      (authenticate config server session).state token
    have collected := collect_now_le config server query
      (publish config server token query (authenticate config server session).state).state token
      publication
    dsimp only at step ⊢
    rw [step]
    constructor
    · dsimp only
      omega
    · intro records answered few
      obtain ⟨reply, rfl⟩ := exists_incomplete_of_length_le_one config server token query
        publication _ answered (Nat.le_of_not_lt few)
      refine ⟨Nat.le_trans published (Nat.add_le_add_right login _), ?_⟩
      change loginTime config (publish config server token query
        (authenticate config server session).state).state = 0
      rw [loginTime, (publish_frame ..).1, cached token authenticated]
      rfl

/-- The last of some attempts has two timeouts left, for its publication and its wait. -/
theorem last_ask_now_le (left : Nat) :
    (ask config server query session).state.now ≤
      session.now + loginTime config session + (left + 1 + 1) * config.timeout := by
  have taken := (ask_now_le config server query session).1
  have two : 2 * config.timeout ≤ (left + 1 + 1) * config.timeout :=
    Nat.mul_le_mul_right _ (Nat.le_add_left 2 left)
  exact Nat.le_trans taken (Nat.add_le_add_left two _)

/-- Each attempt publishes, the first one may log in, and the last one may wait for a job. -/
theorem attempts_now_le (most left : Nat) (last : List Record) :
    (Extraction.attempts (client config server) query most left last session).state.now ≤
      session.now + loginTime config session + (left + 1) * config.timeout := by
  induction left, last, session
      using Extraction.attempts.induct (client config server) query most with
  | case1 last session =>
      rw [Extraction.attempts, Step.pure_state, Nat.add_assoc]
      exact Nat.le_add_right _ _
  | case2 left last session answer message failed =>
      rw [(Extraction.attempts_of_error failed).2.1]
      exact last_ask_now_le config server query session left
  | case3 left last session answer records answered full =>
      rw [(Extraction.attempts_of_full answered full).2.1]
      exact last_ask_now_le config server query session left
  | case4 left last session answer records answered few ih =>
      rw [(Extraction.attempts_of_few answered few).2.1]
      obtain ⟨taken, cached⟩ := (ask_now_le config server query session).2 records
        ((client_ask_eq_ok_iff config server query session).mp answered) few
      change _ ≤ (ask config server query session).state.now +
        loginTime config (ask config server query session).state + _ at ih
      rw [cached] at ih
      rw [Nat.succ_mul (left + 1)]
      refine Nat.le_trans ih ?_
      omega

theorem extract_now_le (most : Nat) :
    (extract (client config server) query most session).state.now ≤
      session.now + (most + 2) * config.timeout := by
  rw [(extract_frame (client config server) query most session).1]
  have taken := attempts_now_le config server query session most most []
  have login := loginTime_le config session
  rw [Nat.succ_mul (most + 1)]
  omega

end Clock

/-! ## Lookups are not given up for their limit -/

section Limits

variable {config : Config} {server : Server} {task other : Task} {token : Option String}
  {body : Json} {limit : Nat} {session : Session} {url : String}

theorem prepare_ne_timedOut :
    prepare config task token ≠ .error (.request other (.timedOut url)) := by
  rw [prepare]
  split
  · simp
  · dsimp only
    split_ifs <;> simp

theorem judge_ne_request {α : Type} {shape : Json.Shape α} {answer : Answer}
    {fault : RequestFault} : judge task shape answer ≠ .error (.request other fault) := by
  rw [judge]
  split
  · split <;> simp
  · simp

/-- An exchange fails for the limit of its own task only. -/
theorem exchange_ne_timedOut {α : Type} {shape : Json.Shape α} (differ : task ≠ other) :
    (exchange config server task shape token body limit session).result ≠
      .error (.request other (.timedOut url)) := by
  rw [exchange, ne_eq, Step.andThen_result_error_iff]
  rintro (late | ⟨answer, -, judged⟩)
  · rw [post] at late
    cases prepared : prepare config task token with
    | error error =>
        rw [prepared] at late
        cases late
        exact prepare_ne_timedOut prepared
    | ok address =>
        simp only [prepared] at late
        cases fate : (send server task (request address token body session) limit session).result with
        | arrived answer => simp [fate, Fate.answer] at late
        | overdue =>
            simp only [fate, Fate.answer, Except.error.injEq, ApiError.request.injEq] at late
            exact differ late.1
        | dropped => simp [fate, Fate.answer] at late
  · exact judge_ne_request judged

theorem authenticate_ne_timedOut :
    (authenticate config server session).result ≠ .error (.request .lookUp (.timedOut url)) := by
  rw [authenticate]
  cases session.token with
  | some token => simp
  | none =>
      dsimp only
      rw [logIn_eq, Step.after_result, ne_eq, Step.andThen_result_error_iff]
      rintro (late | ⟨logins, -, kept⟩)
      · exact exchange_ne_timedOut (by decide) late
      · rw [keepToken] at kept
        split at kept <;> cases kept

theorem publish_ne_timedOut {token : String} {query : Query} :
    (publish config server token query session).result ≠
      .error (.request .lookUp (.timedOut url)) := by
  rw [publish_eq, ne_eq, Step.andThen_result_error_iff]
  rintro (late | ⟨values, -, made⟩)
  · exact exchange_ne_timedOut (by decide) late
  · cases made

variable {job : Job} {deadline : Nat}

/-- Up to the deadline there is less time than the limit of a lookup. -/
theorem lookUp_ne_timedOut (polls : 0 < config.pollInterval)
    (near : deadline ≤ session.now + config.timeout) :
    (lookUp config server job deadline session).result ≠
      .error (.request .lookUp (.timedOut url)) := by
  have short : deadline - session.now < lookupLimit config := by
    rw [lookupLimit]
    omega
  rw [lookUp]
  cases prepared : prepare config .lookUp (some job.token) with
  | error error =>
      intro late
      cases late
      exact prepare_ne_timedOut prepared
  | ok address =>
      dsimp only
      cases fate : (send server .lookUp
          (request address (some job.token) (lookupBody job.id) session)
          (min (lookupLimit config) (deadline - session.now)) session).result with
      | overdue =>
          rw [if_pos ⟨rfl, short⟩]
          simp
      | dropped => simp [Fate.answer]
      | arrived answer =>
          simp only [reduceCtorEq, false_and, if_false, Fate.answer]
          cases judged : judge .lookUp lookupShape answer with
          | error error =>
              intro late
              cases late
              exact judge_ne_request judged
          | ok items => simp [Except.map]

theorem waitFrom_ne_timedOut (polls : 0 < config.pollInterval) (returns : Members Json)
    (near : deadline ≤ session.now + config.timeout) :
    (waitFrom config server job deadline returns session).result ≠
      .error (.request .lookUp (.timedOut url)) := by
  induction returns, session using waitFrom.induct config server job deadline with
  | case1 returns session look error failed =>
      rw [waitFrom_of_failed failed]
      rintro ⟨⟩
      exact lookUp_ne_timedOut polls near failed
  | case2 returns session look found answered current missing complete =>
      rw [waitFrom_of_found answered, if_pos complete]
      simp
  | case3 returns session look found answered current missing incomplete ended =>
      rw [waitFrom_of_found answered, if_neg incomplete, if_pos ended]
      simp
  | case4 returns session look found answered current missing incomplete early ih =>
      rw [waitFrom_of_found answered, if_neg incomplete, if_neg early]
      apply ih
      have later := now_le_lookUp config server job deadline session
      have wakes := le_wakeTime config server session (Nat.le_of_not_le early)
      exact Nat.le_trans near (Nat.add_le_add_right (Nat.le_trans later wakes) _)

theorem collect_ne_timedOut {token : String} {query : Query} {publication : Publication}
    (polls : 0 < config.pollInterval) :
    (collect config server token query publication session).result ≠
      .error (.request .lookUp (.timedOut url)) := by
  cases publication with
  | job id minions =>
      rw [(collect_job config server token query session id minions).1]
      intro late
      cases waited : (waitForReturns config server ⟨token, id, minions⟩ session).result with
      | error error =>
          rw [waited] at late
          cases late
          exact waitFrom_ne_timedOut polls [] (Nat.le_refl _) waited
      | ok collected =>
          rw [waited] at late
          cases late
  | noMinions => simp [collect]
  | incomplete reply => simp [collect]

/-- The deadline of a wait comes before the limit of any of its lookups. -/
theorem ask_ne_timedOut {query : Query} (polls : 0 < config.pollInterval) :
    (ask config server query session).result ≠ .error (.request .lookUp (.timedOut url)) := by
  rw [ask, ne_eq, Step.andThen_result_error_iff]
  rintro (late | ⟨token, -, late⟩)
  · exact authenticate_ne_timedOut late
  · rw [Step.andThen_result_error_iff] at late
    rcases late with late | ⟨publication, -, late⟩
    · exact publish_ne_timedOut late
    · exact collect_ne_timedOut polls late

end Limits

/-! ## The loop of a wait -/

section Loop

variable {config : Config} {server : Server} {job : Job} {deadline : Nat}

/--
The loop of a wait as it stands: after each lookup it sleeps for a poll interval, but
not beyond the deadline. There is nothing to show for it if it takes too many turns.
-/
def waitWithin (config : Config) (server : Server) (job : Job) (deadline : Nat) :
    Nat → Members Json → Session → Option (Step Session (Except ApiError Collected))
  | 0, _, _ => none
  | turns + 1, returns, session =>
      let look := lookUp config server job deadline session
      match look.result with
      | .error error => some ⟨.error error, look.state, look.events⟩
      | .ok found =>
          let current := found.getD returns
          let missing := job.missing current
          let events := turnEvents job look found
          if missing = [] then some ⟨.ok ⟨current, []⟩, look.state, events⟩
          else if deadline ≤ look.state.now then
            some ⟨.ok ⟨current, missing⟩, look.state,
              events ++ [.logged (job.timedOutEntry missing)]⟩
          else
            let wake := min deadline (look.state.now + config.pollInterval)
            (waitWithin config server job deadline turns current
              { look.state with now := wake }).map
                (Step.after (events ++ [.logged (job.waitingEntry missing)]))

/-- A poll interval for each turn but the last is enough time for the loop to end. -/
theorem waitWithin_eq_some (polls : 0 < config.pollInterval) {turns : Nat}
    (returns : Members Json) (session : Session)
    (left : deadline - session.now ≤ turns * config.pollInterval) :
    waitWithin config server job deadline (turns + 1) returns session =
      some (waitFrom config server job deadline returns session) := by
  induction turns generalizing returns session with
  | zero =>
      have late : deadline ≤ (lookUp config server job deadline session).state.now := by
        have later := now_le_lookUp config server job deadline session
        omega
      rw [waitWithin]
      cases result : (lookUp config server job deadline session).result with
      | error error => rw [waitFrom_of_failed result]
      | ok found =>
          rw [waitFrom_of_found result]
          dsimp only
          rw [if_pos late, if_pos late]
          split <;> rfl
  | succ turns ih =>
      have later := now_le_lookUp config server job deadline session
      rw [waitWithin]
      cases result : (lookUp config server job deadline session).result with
      | error error => rw [waitFrom_of_failed result]
      | ok found =>
          rw [waitFrom_of_found result]
          dsimp only
          split
          · rfl
          · split
            · rfl
            · rename_i early
              rw [Nat.succ_mul] at left
              -- The clock moves on, so that the loop never stands still.
              have wakes : wakeTime config server deadline session
                  (lookUp config server job deadline session).state =
                  min deadline ((lookUp config server job deadline session).state.now +
                    config.pollInterval) := by
                rw [wakeTime, if_neg]
                omega
              rw [wakes, ih]
              · rfl
              · dsimp only
                omega

theorem waitWithin_eq_waitForReturns (polls : 0 < config.pollInterval) (session : Session) :
    waitWithin config server job (session.now + config.timeout)
        (config.timeout ⌈/⌉ config.pollInterval + 1) [] session =
      some (waitForReturns config server job session) := by
  apply waitWithin_eq_some polls
  rw [Nat.add_sub_cancel_left, Nat.mul_comm]
  exact (ceilDiv_le_iff_le_mul polls).mp (Nat.le_refl _)

end Loop

end PillarLookup.SaltApi
