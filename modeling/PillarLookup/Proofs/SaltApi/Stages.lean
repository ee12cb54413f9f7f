import PillarLookup.Proofs.SaltApi.Pace

/-!
# The stages of an exchange

An exchange goes through its stages one by one: its address is found, its request is
built, a reply comes in time, the status of the reply is a success and its body decodes.
It fails at the first stage that goes wrong, with an error that tells which one it was.
A lookup that is not answered by its deadline does not fail, but is abandoned.
-/

namespace PillarLookup.SaltApi

/-! ## Exchanges and their stages -/

inductive Exchange where
  | logIn (session : Session)
  | publish (token : String) (query : Query) (session : Session)
  | lookUp (job : Job) (deadline : Nat) (session : Session)

/-- Whether a whole text is of the shape that the replies to a task have. -/
def Task.check (task : Task) (text : String) : Except Json.ReadError Unit :=
  match task with
  | .logIn => (loginShape.decode text).map fun _ => ()
  | .publish => (publishShape.decode text).map fun _ => ()
  | .lookUp => (lookupShape.decode text).map fun _ => ()

namespace Exchange

/-- The session that an exchange starts from. -/
def session : Exchange → Session
  | .logIn session => session
  | .publish _ _ session => session
  | .lookUp _ _ session => session

def task : Exchange → Task
  | .logIn _ => .logIn
  | .publish _ _ _ => .publish
  | .lookUp _ _ _ => .lookUp

def token : Exchange → Option String
  | .logIn _ => none
  | .publish token _ _ => some token
  | .lookUp job _ _ => some job.token

def body (config : Config) : Exchange → Json
  | .logIn _ => loginBody config
  | .publish _ query _ => publishBody query
  | .lookUp job _ _ => lookupBody job.id

/-- The time for the reply: a lookup has what is left of the wait. -/
def limit (config : Config) : Exchange → Nat
  | .logIn _ => config.timeout
  | .publish _ _ _ => config.timeout
  | .lookUp _ deadline session => deadline - session.now

def reply (server : Server) (exchange : Exchange) : Reply :=
  (server.script exchange.task).answer (exchange.session.sent exchange.task)

/-- What the request comes to, if it is built. -/
def fate (config : Config) (server : Server) (exchange : Exchange) : Fate :=
  if exchange.limit config = 0 then .overdue
  else (exchange.reply server).fate (exchange.limit config)

/-- The requests that are sent: one, if it can be built and there is time for it. -/
def requests (config : Config) (exchange : Exchange) : List Http.Request :=
  match prepare config exchange.task exchange.token with
  | .error _ => []
  | .ok url =>
      if exchange.limit config = 0 then []
      else [⟨url.target, exchange.token, (exchange.body config).text, exchange.session.now⟩]

/-- The request can be built, and a reply in time is a success and decodes as a whole. -/
structure Succeeds (config : Config) (server : Server) (exchange : Exchange) : Prop where
  built : ∃ url, prepare config exchange.task exchange.token = .ok url
  replied : ∃ delay status body,
    exchange.reply server = .answer delay status body ∧ delay < exchange.limit config ∧
      Http.isSuccess status = true ∧ exchange.task.check (Answer.text ⟨status, body⟩) = .ok ()

/-- The error of the first stage that fails; each stage presupposes the ones before it. -/
inductive Fails (config : Config) (server : Server) (exchange : Exchange) : ApiError → Prop where
  | unaddressed {fault : Url.Fault}
      (unaddressed : endpoint config exchange.task = .error fault) :
      Fails config server exchange (.endpoint exchange.task.endpoint fault)
  | unbuilt {address : Url} {fault : RequestFault}
      (addressed : endpoint config exchange.task = .ok address)
      (unbuilt : prepare config exchange.task exchange.token =
        .error (.request exchange.task fault)) :
      Fails config server exchange (.request exchange.task fault)
  | late {url : Url}
      (built : prepare config exchange.task exchange.token = .ok url)
      (late : exchange.fate config server = .overdue) (bound : exchange.task ≠ .lookUp) :
      Fails config server exchange (.request exchange.task (.timedOut url.text))
  | dropped {url : Url}
      (built : prepare config exchange.task exchange.token = .ok url)
      (dropped : exchange.fate config server = .dropped) :
      Fails config server exchange (.request exchange.task (.connectionClosed url.text))
  | refused {url : Url} {answer : Answer}
      (built : prepare config exchange.task exchange.token = .ok url)
      (arrived : exchange.fate config server = .arrived answer)
      (refused : Http.isSuccess answer.status = false) :
      Fails config server exchange (.httpStatus exchange.task answer.status answer.text)
  | undecodable {url : Url} {answer : Answer} {error : Json.ReadError}
      (built : prepare config exchange.task exchange.token = .ok url)
      (arrived : exchange.fate config server = .arrived answer)
      (accepted : Http.isSuccess answer.status = true)
      (undecodable : exchange.task.check answer.text = .error error) :
      Fails config server exchange (.undecodable exchange.task error)

/-- A lookup that is built, but not answered by the deadline. -/
structure Abandoned (config : Config) (server : Server) (exchange : Exchange) : Prop where
  looks : exchange.task = .lookUp
  built : ∃ url, prepare config exchange.task exchange.token = .ok url
  late : exchange.fate config server = .overdue

/-- A login whose reply decodes, but has no token in its first value. -/
def LacksToken (config : Config) (server : Server) : Exchange → Prop
  | .logIn session =>
      (∃ url, prepare config .logIn none = .ok url) ∧
        ∃ logins, server.content .logIn loginShape config.timeout session.logins = some logins ∧
          logins.head?.bind id = none
  | .publish _ _ _ => False
  | .lookUp _ _ _ => False

end Exchange

/-! ## One exchange -/

section Stages

variable {config : Config} (server : Server)

/-- An answer is judged by its status first. -/
def Task.judge (task : Task) (answer : Answer) : Except ApiError Unit :=
  if Http.isSuccess answer.status then (task.check answer.text).mapError (.undecodable task)
  else .error (.httpStatus task answer.status answer.text)

/-- What an exchange comes to, one stage after the other, if it is not abandoned. -/
def Exchange.settle (config : Config) (server : Server) (exchange : Exchange) :
    Except ApiError Unit :=
  (prepare config exchange.task exchange.token).bind fun url =>
    ((exchange.fate config server).answer exchange.task url).bind exchange.task.judge

theorem judge_eq_check {α : Type} {task : Task} {shape : Json.Shape α}
    (fits : ∀ text, task.check text = (shape.decode text).map fun _ => ()) (answer : Answer) :
    (judge task shape answer).map (fun _ => ()) = task.judge answer := by
  rw [judge, Task.judge, fits]
  split
  · cases shape.decode answer.text <;> rfl
  · rfl

theorem send_result (task : Task) (request : Http.Request) (limit : Nat) (session : Session) :
    (send server task request limit session).result =
      if limit = 0 then .overdue
      else ((server.script task).answer (session.sent task)).fate limit := by
  rw [send]
  split <;> rfl

/-- A request that is built and waited for is sent once, unless there is no time for it. -/
theorem requestsOf_send (task : Task) (request : Http.Request) (limit : Nat)
    (session : Session) :
    requestsOf (send server task request limit session).events =
      if limit = 0 then [] else [request] := by
  rw [send]
  split <;> rfl

variable {server}

theorem taskJudge_eq_ok_iff {task : Task} {answer : Answer} :
    task.judge answer = .ok () ↔
      Http.isSuccess answer.status = true ∧ task.check answer.text = .ok () := by
  rw [Task.judge]
  cases Http.isSuccess answer.status with
  | false => simp
  | true => cases task.check answer.text <;> simp [Except.mapError]

/-- Where no address is found there is no request, and every other fault is of the request. -/
theorem endpoint_or_request_of_prepare {task : Task} {token : Option String} {error : ApiError}
    (unbuilt : prepare config task token = .error error) :
    (∃ fault, endpoint config task = .error fault ∧ error = .endpoint task.endpoint fault) ∨
      ∃ address fault, endpoint config task = .ok address ∧ error = .request task fault := by
  rw [prepare] at unbuilt
  cases addressed : endpoint config task with
  | error fault =>
      rw [addressed] at unbuilt
      exact .inl ⟨fault, rfl, (Except.error.inj unbuilt).symm⟩
  | ok address =>
      rw [addressed] at unbuilt
      refine .inr ⟨address, ?_⟩
      dsimp only at unbuilt
      split_ifs at unbuilt <;> exact ⟨_, rfl, (Except.error.inj unbuilt).symm⟩

namespace Exchange

variable {exchange : Exchange}

theorem fate_eq_arrived_iff {answer : Answer} :
    exchange.fate config server = .arrived answer ↔
      ∃ delay, exchange.reply server = .answer delay answer.status answer.body ∧
        delay < exchange.limit config := by
  rw [fate]
  constructor
  · intro arrived
    split at arrived
    · cases arrived
    · obtain ⟨delay, reply, waited⟩ := exists_delay_of_arrived arrived
      exact ⟨delay, reply, waited ▸ Reply.span_lt_of_arrived arrived⟩
  · rintro ⟨delay, reply, early⟩
    rw [if_neg (Nat.ne_zero_of_lt early), reply, Reply.fate, if_pos early]

theorem settle_eq_ok_iff :
    exchange.settle config server = .ok () ↔ exchange.Succeeds config server := by
  rw [settle]
  constructor
  · intro settled
    cases built : prepare config exchange.task exchange.token with
    | error error => simp [built, Except.bind] at settled
    | ok url =>
        cases fate : exchange.fate config server with
        | overdue => simp [built, fate, Fate.answer, Except.bind] at settled
        | dropped => simp [built, fate, Fate.answer, Except.bind] at settled
        | arrived answer =>
            rw [built, fate] at settled
            obtain ⟨delay, reply, early⟩ := fate_eq_arrived_iff.mp fate
            obtain ⟨accepted, checked⟩ := taskJudge_eq_ok_iff.mp settled
            exact ⟨⟨url, built⟩, delay, answer.status, answer.body, reply, early, accepted, checked⟩
  · rintro ⟨⟨url, built⟩, delay, status, body, reply, early, accepted, checked⟩
    have arrived : exchange.fate config server = .arrived ⟨status, body⟩ :=
      fate_eq_arrived_iff.mpr ⟨delay, reply, early⟩
    rw [built, arrived]
    exact taskJudge_eq_ok_iff.mpr ⟨accepted, checked⟩

/-- The stages exclude each other, so that an exchange fails with one error only. -/
theorem settle_of_fails {error : ApiError} (fails : exchange.Fails config server error) :
    exchange.settle config server = .error error := by
  rw [settle]
  cases fails with
  | unaddressed unaddressed =>
      rw [prepare, unaddressed]
      rfl
  | unbuilt addressed unbuilt =>
      rw [unbuilt]
      rfl
  | late built late bound =>
      rw [built, late]
      rfl
  | dropped built dropped =>
      rw [built, dropped]
      rfl
  | refused built arrived refused =>
      rw [built, arrived]
      change exchange.task.judge _ = _
      rw [Task.judge, refused]
      rfl
  | undecodable built arrived accepted undecodable =>
      rw [built, arrived]
      change exchange.task.judge _ = _
      rw [Task.judge, if_pos accepted, undecodable]
      rfl

theorem fails_of_settle {error : ApiError} (awaited : ¬ exchange.Abandoned config server)
    (settled : exchange.settle config server = .error error) :
    exchange.Fails config server error := by
  rw [settle] at settled
  cases built : prepare config exchange.task exchange.token with
  | error first =>
      rw [built] at settled
      cases settled
      rcases endpoint_or_request_of_prepare built with
        ⟨fault, unaddressed, rfl⟩ | ⟨address, fault, addressed, rfl⟩
      · exact .unaddressed unaddressed
      · exact .unbuilt addressed built
  | ok url =>
      rw [built] at settled
      cases fate : exchange.fate config server with
      | overdue =>
          rw [fate] at settled
          cases settled
          exact .late built fate fun looks => awaited ⟨looks, ⟨url, built⟩, fate⟩
      | dropped =>
          rw [fate] at settled
          cases settled
          exact .dropped built fate
      | arrived answer =>
          rw [fate] at settled
          change exchange.task.judge answer = _ at settled
          rw [Task.judge] at settled
          by_cases accepted : Http.isSuccess answer.status = true
          · rw [if_pos accepted] at settled
            cases checked : exchange.task.check answer.text with
            | error undecodable =>
                rw [checked] at settled
                cases settled
                exact .undecodable built fate accepted checked
            | ok _ =>
                rw [checked] at settled
                cases settled
          · rw [if_neg accepted] at settled
            cases settled
            exact .refused built fate (Bool.eq_false_iff.mpr accepted)

/-- An abandoned lookup would have come to nothing but a timeout, which its deadline forestalls. -/
theorem not_fails_of_abandoned {error : ApiError}
    (abandoned : exchange.Abandoned config server) : ¬ exchange.Fails config server error := by
  obtain ⟨looks, ⟨url, built⟩, late⟩ := abandoned
  intro fails
  cases fails with
  | unaddressed unaddressed =>
      rw [prepare, unaddressed] at built
      cases built
  | unbuilt addressed unbuilt => cases unbuilt.symm.trans built
  | late other again bound => exact bound looks
  | dropped other dropped => cases dropped.symm.trans late
  | refused other arrived refused => cases arrived.symm.trans late
  | undecodable other arrived accepted undecodable => cases arrived.symm.trans late

theorem not_succeeds_of_abandoned (abandoned : exchange.Abandoned config server) :
    ¬ exchange.Succeeds config server := by
  rintro ⟨-, delay, status, body, reply, early, -⟩
  have arrived : exchange.fate config server = .arrived ⟨status, body⟩ :=
    fate_eq_arrived_iff.mpr ⟨delay, reply, early⟩
  cases arrived.symm.trans abandoned.late

theorem settle_eq_error_iff {error : ApiError} (awaited : ¬ exchange.Abandoned config server) :
    exchange.settle config server = .error error ↔ exchange.Fails config server error :=
  ⟨fails_of_settle awaited, settle_of_fails⟩

theorem Succeeds.not_fails {error : ApiError} (succeeds : exchange.Succeeds config server) :
    ¬ exchange.Fails config server error := by
  intro fails
  cases (settle_eq_ok_iff.mpr succeeds).symm.trans (settle_of_fails fails)

end Exchange

end Stages

/-! ## What the program makes of an exchange -/

/-- How the program finds an exchange to end. -/
inductive Ending where
  | failed (error : ApiError)
  | succeeded
  | abandoned

def Ending.ofResult {α : Type} : Except ApiError α → Ending
  | .error error => .failed error
  | .ok _ => .succeeded

def Exchange.ending (config : Config) (server : Server) : Exchange → Ending
  | .logIn session =>
      .ofResult (exchange config server .logIn loginShape none (loginBody config) config.timeout
        session).result
  | .publish token query session =>
      .ofResult (exchange config server .publish publishShape (some token) (publishBody query)
        config.timeout session).result
  | .lookUp job deadline session =>
      match (SaltApi.lookUp config server job deadline session).result with
      | .error error => .failed error
      | .ok none => .abandoned
      | .ok (some _) => .succeeded

/-- A lookup is bound by a deadline that is a timeout away at most. -/
def Exchange.IsNear (config : Config) : Exchange → Prop
  | .lookUp _ deadline session => deadline ≤ session.now + config.timeout
  | _ => True

section Endings

variable {config : Config} {server : Server}

theorem ofResult_map {α : Type} (result : Except ApiError α) :
    Ending.ofResult (result.map fun _ => ()) = .ofResult result := by
  cases result <;> rfl

/-- The program goes through the stages one by one. -/
theorem exchange_settles {α : Type} {shape : Json.Shape α} (server : Server) (made : Exchange)
    (fits : ∀ text, made.task.check text = (shape.decode text).map fun _ => ()) :
    let step := exchange config server made.task shape made.token (made.body config)
      (made.limit config) made.session
    Ending.ofResult step.result = .ofResult (made.settle config server) ∧
      requestsOf step.events = made.requests config := by
  rw [exchange, post, Exchange.settle, Exchange.requests]
  cases prepare config made.task made.token with
  | error error => exact ⟨rfl, rfl⟩
  | ok url =>
      have sent := requestsOf_send server made.task
        (request url made.token (made.body config) made.session) (made.limit config) made.session
      have result : (send server made.task
          (request url made.token (made.body config) made.session) (made.limit config)
          made.session).result = made.fate config server := send_result ..
      dsimp only
      rw [result]
      cases made.fate config server with
      | overdue => exact ⟨rfl, sent⟩
      | dropped => exact ⟨rfl, sent⟩
      | arrived answer =>
          constructor
          · exact (ofResult_map _).symm.trans (congrArg _ (judge_eq_check fits answer))
          · refine Eq.trans ?_ sent
            rw [Step.andThen_ok rfl, Step.after_events, requestsOf_append]
            exact (congrArg _ (requestsOf_answerEvents _ _)).trans (List.append_nil _)

/-- So does a lookup, but one that is not answered by its deadline is given up for it. -/
theorem lookUp_of_built {job : Job} {deadline : Nat} {session : Session} {url : Url}
    (server : Server)
    (polls : 0 < config.pollInterval) (near : deadline ≤ session.now + config.timeout)
    (built : prepare config .lookUp (some job.token) = .ok url) :
    let made := Exchange.lookUp job deadline session
    let look := lookUp config server job deadline session
    requestsOf look.events = made.requests config ∧
      look.result =
        match made.fate config server with
        | .overdue => .ok none
        | .dropped => .error (.request .lookUp (.connectionClosed url.text))
        | .arrived answer =>
            (judge .lookUp lookupShape answer).map fun items => some (items.head?.getD []) := by
  have short : deadline - session.now < lookupLimit config := by
    rw [lookupLimit]
    omega
  have whole : min (lookupLimit config) (deadline - session.now) = deadline - session.now :=
    Nat.min_eq_right (Nat.le_of_lt short)
  have sent := requestsOf_send server .lookUp
    (request url (some job.token) (lookupBody job.id) session) (deadline - session.now) session
  have result : (send server .lookUp
      (request url (some job.token) (lookupBody job.id) session) (deadline - session.now)
      session).result = (Exchange.lookUp job deadline session).fate config server :=
    send_result ..
  dsimp only
  rw [lookUp, Exchange.requests, Exchange.task, Exchange.token, built]
  dsimp only
  rw [whole, result]
  cases (Exchange.lookUp job deadline session).fate config server with
  | overdue =>
      rw [if_pos ⟨rfl, short⟩]
      exact ⟨sent, rfl⟩
  | dropped => exact ⟨sent, rfl⟩
  | arrived answer =>
      refine ⟨?_, rfl⟩
      refine Eq.trans ?_ sent
      rw [if_neg (by simp)]
      exact (requestsOf_append _ _).trans
        ((congrArg _ (requestsOf_answerEvents _ _)).trans (List.append_nil _))

theorem lookUp_of_unbuilt {job : Job} {error : ApiError} (server : Server) (deadline : Nat)
    (session : Session) (unbuilt : prepare config .lookUp (some job.token) = .error error) :
    lookUp config server job deadline session = .pure (.error error) session := by
  rw [lookUp, unbuilt]

theorem requestsOf_lookUp {job : Job} {deadline : Nat} {session : Session}
    (polls : 0 < config.pollInterval) (near : deadline ≤ session.now + config.timeout) :
    requestsOf (lookUp config server job deadline session).events =
      (Exchange.lookUp job deadline session).requests config := by
  cases built : prepare config .lookUp (some job.token) with
  | error error =>
      rw [lookUp_of_unbuilt server deadline session built, Exchange.requests, Exchange.task,
        Exchange.token, built]
      rfl
  | ok url => exact (lookUp_of_built server polls near built).1

namespace Exchange

variable {made : Exchange}

theorem ending_of_abandoned (polls : 0 < config.pollInterval) (near : made.IsNear config)
    (abandoned : made.Abandoned config server) : made.ending config server = .abandoned := by
  obtain ⟨looks, ⟨url, built⟩, late⟩ := abandoned
  cases made with
  | logIn session => cases looks
  | publish token query session => cases looks
  | lookUp job deadline session =>
      obtain ⟨-, result⟩ := lookUp_of_built server polls near built
      rw [late] at result
      rw [ending, result]

theorem ending_of_not_abandoned (polls : 0 < config.pollInterval) (near : made.IsNear config)
    (awaited : ¬ made.Abandoned config server) :
    made.ending config server = .ofResult (made.settle config server) := by
  cases made with
  | logIn session => exact (exchange_settles server (.logIn session) fun _ => rfl).1
  | publish token query session =>
      exact (exchange_settles server (.publish token query session) fun _ => rfl).1
  | lookUp job deadline session =>
      rw [ending, settle]
      cases built : prepare config .lookUp (some job.token) with
      | error error =>
          rw [lookUp_of_unbuilt server deadline session built, task, token, built]
          rfl
      | ok url =>
          obtain ⟨-, result⟩ := lookUp_of_built server polls near built
          rw [result, task, token, built]
          cases fate : (lookUp job deadline session).fate config server with
          | overdue => exact absurd ⟨rfl, ⟨url, built⟩, fate⟩ awaited
          | dropped => rfl
          | arrived answer =>
              have judged : (judge .lookUp lookupShape answer).map (fun _ => ()) =
                  Task.judge .lookUp answer := judge_eq_check (fun _ => rfl) answer
              refine Eq.trans ?_ (congrArg Ending.ofResult judged)
              dsimp only
              cases judge .lookUp lookupShape answer <;> rfl

/-- The program finds an exchange to end as its stages say. -/
theorem ending_iff (polls : 0 < config.pollInterval) (near : made.IsNear config) :
    (made.ending config server = .succeeded ↔ made.Succeeds config server) ∧
      (∀ error, made.ending config server = .failed error ↔ made.Fails config server error) ∧
      (made.ending config server = .abandoned ↔ made.Abandoned config server) := by
  by_cases abandoned : made.Abandoned config server
  · rw [ending_of_abandoned polls near abandoned]
    simp [abandoned, not_succeeds_of_abandoned abandoned, not_fails_of_abandoned abandoned]
  · rw [ending_of_not_abandoned polls near abandoned]
    refine ⟨?_, ?_, ?_⟩
    · rw [← settle_eq_ok_iff]
      cases made.settle config server <;> simp [Ending.ofResult]
    · intro error
      rw [← settle_eq_error_iff abandoned]
      cases made.settle config server <;> simp [Ending.ofResult]
    · simp only [abandoned, iff_false]
      cases made.settle config server <;> simp [Ending.ofResult]

end Exchange

end Endings

end PillarLookup.SaltApi
