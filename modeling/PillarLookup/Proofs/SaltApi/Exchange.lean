import PillarLookup.Proofs.Trace
import PillarLookup.SaltApi.Client

/-!
# What an exchange comes to

The clock decides when a reply comes and never what it holds. So the outcome of an
exchange is a matter of the script alone: of which reply is next, of the limit, and
of whether a request can be made. Logging in and publishing are both one exchange
and what is made of its value.
-/

namespace PillarLookup.SaltApi

@[simp] theorem requestsOf_answerEvents (task : Task) (answer : Answer) :
    requestsOf (answerEvents task answer) = [] := by
  rw [answerEvents]
  split <;> rfl

/-! ## What the server's replies hold -/

namespace Server

variable {α : Type}

/--
What the reply to a task after `count` others decodes to. There is nothing unless
the reply comes within the limit, is a success and decodes.
-/
def content (server : Server) (task : Task) (shape : Json.Shape α) (limit count : Nat) :
    Option α :=
  match ((server.script task).answer count).fate limit with
  | .arrived answer =>
      if Http.isSuccess answer.status then (shape.decode answer.text).toOption else none
  | _ => none

/-- The token that a login yields. -/
def granted (server : Server) (limit count : Nat) : Option String :=
  (server.content .logIn loginShape limit count).bind fun logins => logins.head?.bind id

/-- The first value in the reply to a publication, `null` if there is none. -/
def published (server : Server) (limit count : Nat) : Option Json :=
  (server.content .publish publishShape limit count).map fun values => values.head?.getD .null

end Server

theorem judge_eq_ok_iff {α : Type} {task : Task} {shape : Json.Shape α} {answer : Answer}
    {value : α} :
    judge task shape answer = .ok value ↔
      (if Http.isSuccess answer.status then (shape.decode answer.text).toOption else none) =
        some value := by
  rw [judge]
  split
  · cases shape.decode answer.text with
    | error error => simp [Except.toOption]
    | ok decoded => simp [Except.toOption]
  · simp

/-- A reply in time that is a success holds what its text decodes to. -/
theorem content_of_answer {α : Type} {server : Server} {task : Task} {shape : Json.Shape α}
    {limit count delay status : Nat} {body : List UInt8} {value : α}
    (reply : (server.script task).answer count = .answer delay status body)
    (early : delay < limit) (success : Http.isSuccess status = true)
    (decoded : shape.decode (Answer.text ⟨status, body⟩) = .ok value) :
    server.content task shape limit count = some value := by
  rw [Server.content]
  rw [reply, Reply.fate, if_pos early]
  dsimp only
  rw [if_pos success, decoded]
  rfl

/-- An answer in time was given after some delay, which is all the wait for it takes. -/
theorem exists_delay_of_arrived {limit : Nat} {reply : Reply} {answer : Answer}
    (arrived : reply.fate limit = .arrived answer) :
    ∃ delay, reply = .answer delay answer.status answer.body ∧ reply.span limit = delay := by
  cases reply with
  | answer delay status body =>
      rw [Reply.fate] at arrived
      split at arrived
      · rename_i early
        cases arrived
        exact ⟨delay, rfl, Nat.min_eq_left (Nat.le_of_lt early)⟩
      · cases arrived
  | stall => cases arrived
  | drop => cases arrived

/-! ## Exchanges -/

/-- What it takes to make a request, and the address that it goes to. -/
theorem prepare_eq_ok_iff {config : Config} {task : Task} {token : Option String} {url : Url} :
    prepare config task token = .ok url ↔
      ∃ address, endpoint config task = .ok address ∧ address.hasHost = true ∧
        token.all Http.isHeaderValue = true ∧ isWebScheme address.scheme = true ∧
        address.withoutCredentials.isSendable = true ∧ address.withoutCredentials = url := by
  rw [prepare]
  cases endpoint config task with
  | error fault => simp
  | ok address =>
      simp only [Except.ok.injEq, exists_eq_left']
      cases address.hasHost with
      | false => simp
      | true =>
          cases token.all Http.isHeaderValue with
          | false => simp
          | true =>
              cases isWebScheme address.scheme with
              | false => simp
              | true => cases address.withoutCredentials.isSendable <;> simp

/-- Lookups are sent to the address of publications. -/
theorem prepare_lookUp {config : Config} {token : Option String} {url : Url}
    (prepared : prepare config .publish token = .ok url) :
    prepare config .lookUp token = .ok url := by
  rw [prepare_eq_ok_iff] at prepared ⊢
  exact prepared

/-- There is an address for the task, and some time to wait for the reply. -/
def Sendable (config : Config) (task : Task) (token : Option String) (limit : Nat) : Prop :=
  (∃ url, prepare config task token = .ok url) ∧ 0 < limit

/-- A request with this token and this body. -/
structure Posts (token : Option String) (body : Json) (request : Http.Request) : Prop where
  token_eq : request.token = token
  body_eq : request.body = body.text

theorem posts_request (url : Url) (token : Option String) (body : Json) (session : Session) :
    Posts token body (request url token body session) :=
  ⟨rfl, rfl⟩

/-- The session after the next reply to a task was waited for. -/
def Session.awaited (session : Session) (server : Server) (task : Task) (limit : Nat) : Session :=
  { session with
    now := session.now + ((server.script task).answer (session.sent task)).span limit }.countUp
      task

section Exchanges

variable {α : Type} (config : Config) (server : Server) (task : Task) (shape : Json.Shape α)
  (token : Option String) (body : Json) (limit : Nat) (session : Session)

/-- Post a body and decode the answer. -/
def exchange : Step Session (Except ApiError α) :=
  (post config server task token body limit session).andThen (receive task shape)

variable {config task token limit}

theorem send_of_pos (request : Http.Request) (time : 0 < limit) :
    send server task request limit session =
      ⟨((server.script task).answer (session.sent task)).fate limit,
        session.awaited server task limit, [.sent request]⟩ := by
  rw [send, if_neg (Nat.ne_of_gt time)]
  rfl

/-- Where no request can be made, or there is no time for it, nothing happens. -/
theorem exchange_of_not_sendable (unsent : ¬ Sendable config task token limit) :
    ∃ error, exchange config server task shape token body limit session =
      ⟨.error error, session, []⟩ := by
  unfold exchange post
  cases prepared : prepare config task token with
  | error error => exact ⟨error, rfl⟩
  | ok url =>
      have noTime : limit = 0 :=
        Nat.eq_zero_of_not_pos fun time => unsent ⟨⟨url, prepared⟩, time⟩
      subst noTime
      exact ⟨.request task (.timedOut url.text), rfl⟩

/-- A request that is sent takes the next reply of its task. -/
theorem exchange_of_sendable (sendable : Sendable config task token limit) :
    let step := exchange config server task shape token body limit session
    step.state = session.awaited server task limit ∧
    (∃ request, requestsOf step.events = [request] ∧ Posts token body request) ∧
    ∀ value, step.result = .ok value ↔
      server.content task shape limit (session.sent task) = some value := by
  obtain ⟨⟨url, prepared⟩, time⟩ := sendable
  have posted := posts_request url token body session
  unfold exchange post Server.content
  simp only [prepared, send_of_pos _ _ _ time]
  cases ((server.script task).answer (session.sent task)).fate limit with
  | overdue => exact ⟨rfl, ⟨_, rfl, posted⟩, by simp [Step.andThen, Fate.answer]⟩
  | dropped => exact ⟨rfl, ⟨_, rfl, posted⟩, by simp [Step.andThen, Fate.answer]⟩
  | arrived answer =>
      refine ⟨rfl, ⟨_, ?_, posted⟩, ?_⟩
      · simp [Step.andThen, Fate.answer, receive]
      · intro value
        exact judge_eq_ok_iff

variable {server shape body session}

theorem content_zero (count : Nat) : server.content task shape 0 count = none := by
  rw [Server.content]
  cases (server.script task).answer count <;> simp [Reply.fate]

/-- A reply holds something only if there was time to wait for it. -/
theorem pos_of_content {count : Nat} {value : α}
    (held : server.content task shape limit count = some value) : 0 < limit := by
  apply Nat.pos_of_ne_zero
  rintro rfl
  rw [content_zero] at held
  cases held

/-- The value of an exchange is what the next reply holds, if a request can be made. -/
theorem exchange_eq_ok_iff {value : α} :
    (exchange config server task shape token body limit session).result = .ok value ↔
      (∃ url, prepare config task token = .ok url) ∧
        server.content task shape limit (session.sent task) = some value := by
  by_cases sendable : Sendable config task token limit
  · rw [(exchange_of_sendable server shape body session sendable).2.2 value]
    exact ⟨fun held => ⟨sendable.1, held⟩, fun both => both.2⟩
  · obtain ⟨error, failed⟩ := exchange_of_not_sendable server shape body session sendable
    rw [failed]
    constructor
    · intro contrary
      cases contrary
    · rintro ⟨prepared, held⟩
      exact absurd ⟨prepared, pos_of_content held⟩ sendable

/-- An exchange that succeeds sends one request and takes as long as the reply to it. -/
theorem exchange_arrives {value : α}
    (done : (exchange config server task shape token body limit session).result = .ok value) :
    let step := exchange config server task shape token body limit session
    ∃ url delay status content,
      (server.script task).answer (session.sent task) = .answer delay status content ∧
      requestsOf step.events = [request url token body session] ∧
      step.state.now = session.now + delay := by
  obtain ⟨⟨url, prepared⟩, held⟩ := exchange_eq_ok_iff.mp done
  have time := pos_of_content held
  rw [Server.content] at held
  unfold exchange post
  simp only [prepared, send_of_pos _ _ _ time]
  cases fate : ((server.script task).answer (session.sent task)).fate limit with
  | overdue => simp [fate] at held
  | dropped => simp [fate] at held
  | arrived answer =>
      obtain ⟨delay, reply, waited⟩ := exists_delay_of_arrived fate
      refine ⟨url, delay, answer.status, answer.body, reply, ?_, ?_⟩
      · simp [Step.andThen, Fate.answer, receive]
      · simp [Step.andThen, Fate.answer, receive, Step.after, Session.awaited, now_countUp, waited]

end Exchanges

/-! ## Logging in -/

section Phases

variable {config : Config} (server : Server) (session : Session)

/-- What a login makes of the values in the reply. -/
def keepToken (logins : List (Option String)) (session : Session) :
    Step Session (Except ApiError String) :=
  match logins.head?.bind id with
  | none => .pure (.error .missingToken) session
  | some token => .pure (.ok token) { session with token := some token }

theorem logIn_eq (config : Config) (server : Server) (session : Session) :
    logIn config server session =
      ((exchange config server .logIn loginShape none (loginBody config) config.timeout
        session).andThen keepToken).after [.logged (loginEntry config)] :=
  rfl

theorem logIn_of_not_sendable (unsent : ¬ Sendable config .logIn none config.timeout) :
    ∃ error events, requestsOf events = [] ∧
      logIn config server session = ⟨.error error, session, events⟩ := by
  obtain ⟨error, failed⟩ :=
    exchange_of_not_sendable server loginShape (loginBody config) session unsent
  refine ⟨error, [.logged (loginEntry config)], rfl, ?_⟩
  rw [logIn_eq, failed]
  rfl

/-- A login that is sent keeps the token that it yields, and nothing if it yields none. -/
theorem logIn_of_sendable (sendable : Sendable config .logIn none config.timeout) :
    let step := logIn config server session
    step.state = { session.awaited server .logIn config.timeout with
      token := (server.granted config.timeout session.logins).or session.token } ∧
    (∃ request, requestsOf step.events = [request] ∧ Posts none (loginBody config) request) ∧
    ∀ token, step.result = .ok token ↔
      server.granted config.timeout session.logins = some token := by
  obtain ⟨state, ⟨request, sent, posted⟩, value⟩ :=
    exchange_of_sendable server loginShape (loginBody config) session sendable
  rw [logIn_eq]
  rw [Server.granted]
  change ∀ logins, _ ↔ server.content .logIn loginShape config.timeout session.logins = _ at value
  cases result : (exchange config server .logIn loginShape none (loginBody config)
      config.timeout session).result with
  | error error =>
      have nothing : server.content .logIn loginShape config.timeout session.logins = none := by
        rw [Option.eq_none_iff_forall_ne_some]
        intro logins held
        rw [(value logins).mpr held] at result
        cases result
      rw [Step.andThen_error result, nothing]
      refine ⟨?_, ⟨request, by simpa using sent, posted⟩, by simp⟩
      simp [state, Session.awaited, Session.countUp]
  | ok logins =>
      rw [Step.andThen_ok result, (value logins).mp result, Option.bind_some]
      rw [keepToken]
      cases logins.head?.bind id with
      | none =>
          refine ⟨?_, ⟨request, by simpa using sent, posted⟩, by simp⟩
          simp [state, Session.awaited, Session.countUp]
      | some token =>
          refine ⟨?_, ⟨request, by simpa using sent, posted⟩, by simp⟩
          simp [state]

/-! ## Publishing -/

theorem publish_eq (config : Config) (server : Server) (token : String) (query : Query)
    (session : Session) :
    publish config server token query session =
      (exchange config server .publish publishShape (some token) (publishBody query)
        config.timeout session).andThen fun values session =>
          .pure (.ok (Publication.ofValue (values.head?.getD .null))) session :=
  rfl

theorem publish_of_not_sendable {token : String} (query : Query)
    (unsent : ¬ Sendable config .publish (some token) config.timeout) :
    ∃ error, publish config server token query session = ⟨.error error, session, []⟩ := by
  obtain ⟨error, failed⟩ :=
    exchange_of_not_sendable server publishShape (publishBody query) session unsent
  refine ⟨error, ?_⟩
  rw [publish_eq, failed]
  rfl

theorem publish_of_sendable {token : String} (query : Query)
    (sendable : Sendable config .publish (some token) config.timeout) :
    let step := publish config server token query session
    step.state = session.awaited server .publish config.timeout ∧
    (∃ request, requestsOf step.events = [request] ∧
      Posts (some token) (publishBody query) request) := by
  obtain ⟨state, ⟨request, sent, posted⟩, -⟩ :=
    exchange_of_sendable server publishShape (publishBody query) session sendable
  rw [publish_eq]
  cases result : (exchange config server .publish publishShape (some token) (publishBody query)
      config.timeout session).result with
  | error error =>
      rw [Step.andThen_error result]
      exact ⟨state, request, sent, posted⟩
  | ok values =>
      rw [Step.andThen_ok result]
      exact ⟨state, request, by simpa using sent, posted⟩

variable {server session}

/-- Publishing comes to what the first value of the next reply says. -/
theorem publish_eq_ok_iff {token : String} {query : Query} {publication : Publication} :
    (publish config server token query session).result = .ok publication ↔
      (∃ url, prepare config .publish (some token) = .ok url) ∧
        ∃ reply, server.published config.timeout session.publishes = some reply ∧
          publication = .ofValue reply := by
  rw [publish_eq, Step.andThen_result_ok_iff]
  rw [Server.published]
  constructor
  · rintro ⟨values, result, made⟩
    obtain ⟨prepared, held⟩ := exchange_eq_ok_iff.mp result
    change server.content .publish publishShape config.timeout session.publishes = _ at held
    refine ⟨prepared, values.head?.getD .null, by simp [held], ?_⟩
    exact (Except.ok.inj made).symm
  · rintro ⟨prepared, reply, held, rfl⟩
    obtain ⟨values, content, rfl⟩ := Option.map_eq_some_iff.mp held
    exact ⟨values, exchange_eq_ok_iff.mpr ⟨prepared, content⟩, rfl⟩

end Phases

end PillarLookup.SaltApi
