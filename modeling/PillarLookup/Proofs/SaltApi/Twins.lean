import PillarLookup.Proofs.SaltApi.Waiting

/-!
# Two runs that differ in their secrets

Two clients are twins if all that sets them apart is the password in their configuration
and the tokens that their servers grant. What one of them does the other does as well, at
the same time: its steps come to the same, log the same and send the same requests, but
for the password of a login and the token of what follows it.
-/

namespace PillarLookup

/-- The configuration with another password. -/
def Config.withPassword (config : Config) (password : String) : Config :=
  { config with password := password }

namespace SaltApi

/-! ## What may differ -/

/-- The job with another token to ask for it. -/
def Job.withToken (job : Job) (token : String) : Job :=
  { job with token := token }

/-- Two outcomes that are the same error, or values that are related. -/
inductive Agree {ε α β : Type} (related : α → β → Prop) : Except ε α → Except ε β → Prop where
  | error (error : ε) : Agree related (.error error) (.error error)
  | ok {first : α} {second : β} (same : related first second) :
      Agree related (.ok first) (.ok second)

/-- Tokens that are the same or can both be sent. -/
def TokensAlike (first second : String) : Prop :=
  first = second ∨ (Http.isHeaderValue first = true ∧ Http.isHeaderValue second = true)

/-- What a login posts. -/
def credentials (eauth username password : String) : Json :=
  .obj [("eauth", .str eauth), ("password", .str password), ("username", .str username)]

/--
Events that show the same: equal entries of the log, or requests at the same time that
differ in the password of a login or in the token of anything else, and in nothing more.
-/
inductive Alike : Event → Event → Prop where
  | logged (entry : LogEntry) : Alike (.logged entry) (.logged entry)
  | login (path eauth username first second : String) (time : Nat) :
      Alike (.sent ⟨path, none, (credentials eauth username first).text, time⟩)
        (.sent ⟨path, none, (credentials eauth username second).text, time⟩)
  | later (path first second body : String) (time : Nat) :
      Alike (.sent ⟨path, some first, body, time⟩) (.sent ⟨path, some second, body, time⟩)

/-- A login's answer that is a success and decodes to a token that can be sent. -/
def Answer.Grants (answer : Answer) : Prop :=
  Http.isSuccess answer.status = true ∧
    ∃ logins token, loginShape.decode answer.text = .ok logins ∧
      logins.head?.bind id = some token ∧ Http.isHeaderValue token = true

/-- Answers to a login that are the same, or grant a token each. -/
def Answer.Twin (first second : Answer) : Prop :=
  first = second ∨ (first.Grants ∧ second.Grants)

/-- Replies that take the same time and hold related answers. -/
inductive Reply.Agree (related : Answer → Answer → Prop) : Reply → Reply → Prop where
  | answer {delay status other : Nat} {body twin : List UInt8}
      (same : related ⟨status, body⟩ ⟨other, twin⟩) :
      Agree related (.answer delay status body) (.answer delay other twin)
  | stall : Agree related .stall .stall
  | drop : Agree related .drop .drop

/-- Servers that grant different tokens at most. -/
structure Server.Twin (server twin : Server) : Prop where
  login : ∀ count, (server.login.answer count).Agree Answer.Twin (twin.login.answer count)
  publish : twin.publish = server.publish
  lookup : twin.lookup = server.lookup

/-- Sessions that stand at the same point, with tokens that are alike if there are any. -/
structure Session.Twin (session twin : Session) : Prop where
  now : twin.now = session.now
  logins : twin.logins = session.logins
  publishes : twin.publishes = session.publishes
  lookups : twin.lookups = session.lookups
  token : Option.Rel TokensAlike session.token twin.token

/-- Steps that come to related results, leave twins behind and show the same. -/
structure Twins {α β : Type} (related : α → β → Prop)
    (first : Step Session α) (second : Step Session β) : Prop where
  result : related first.result second.result
  state : first.state.Twin second.state
  events : List.Forall₂ Alike first.events second.events

/-! ## Steps side by side -/

section Steps

variable {α β γ δ : Type}

theorem TokensAlike.all_isHeaderValue {first second : String} (alike : TokensAlike first second) :
    (some first).all Http.isHeaderValue = (some second).all Http.isHeaderValue := by
  rcases alike with rfl | ⟨legal, other⟩
  · rfl
  · exact legal.trans other.symm

theorem agree_eq_iff {ε : Type} {first second : Except ε α} :
    Agree Eq first second ↔ first = second := by
  constructor
  · rintro (_ | rfl) <;> rfl
  · rintro rfl
    cases first with
    | error error => exact .error error
    | ok value => exact .ok rfl

theorem alike_logged (entry : LogEntry) :
    List.Forall₂ Alike [.logged entry] [.logged entry] :=
  .cons (.logged entry) .nil

namespace Twins

variable {related : α → β → Prop} {next : γ → δ → Prop}

theorem pure {value : α} {other : β} {session twin : Session} (same : related value other)
    (sessions : session.Twin twin) :
    Twins related (.pure value session) (.pure other twin) :=
  ⟨same, sessions, .nil⟩

theorem after {first : Step Session α} {second : Step Session β} {events others : List Event}
    (twins : Twins related first second)
    (shown : List.Forall₂ Alike events others) :
    Twins related (first.after events) (second.after others) :=
  ⟨twins.result, twins.state, List.rel_append shown twins.events⟩

/-- Twins stay twins as long as whatever they go on with are. -/
theorem andThen {ε : Type} {first : Step Session (Except ε α)}
    {second : Step Session (Except ε β)} {onward : α → Session → Step Session (Except ε γ)}
    {along : β → Session → Step Session (Except ε δ)}
    (twins : Twins (Agree related) first second)
    (follow : ∀ value other session twin, related value other → session.Twin twin →
      Twins (Agree next) (onward value session) (along other twin)) :
    Twins (Agree next) (first.andThen onward) (second.andThen along) := by
  obtain ⟨result, state, events⟩ := first
  obtain ⟨result', state', events'⟩ := second
  obtain ⟨agree, sessions, shown⟩ := twins
  cases agree with
  | error error => exact ⟨.error error, sessions, shown⟩
  | ok same => exact (follow _ _ _ _ same sessions).after shown

theorem mono {other : α → β → Prop} {first : Step Session α} {second : Step Session β}
    (twins : Twins related first second)
    (weaker : ∀ value twin, related value twin → other value twin) :
    Twins other first second :=
  ⟨weaker _ _ twins.result, twins.state, twins.events⟩

end Twins

end Steps

/-! ## Exchanges side by side -/

/-- What is posted: the credentials, or anything else along with a token. -/
inductive Payload (config : Config) (password : String) :
    Option String → Json → Option String → Json → Prop where
  | login :
      Payload config password none (loginBody config) none
        (loginBody (config.withPassword password))
  | later {first second : String} (tokens : TokensAlike first second) (body : Json) :
      Payload config password (some first) body (some second) body

/-- Waits that end in the same way, with related answers if there are any. -/
inductive Fate.Agree (related : Answer → Answer → Prop) : Fate → Fate → Prop where
  | arrived {first second : Answer} (same : related first second) :
      Agree related (.arrived first) (.arrived second)
  | overdue : Agree related .overdue .overdue
  | dropped : Agree related .dropped .dropped

section Exchanges

variable {config : Config} {password : String} {server twin : Server} {session other : Session}
  {task : Task} {token token' : Option String} {body body' : Json} {limit : Nat}
  {related : Answer → Answer → Prop}

theorem Session.Twin.refl (session : Session) : session.Twin session := by
  refine ⟨rfl, rfl, rfl, rfl, ?_⟩
  cases session.token with
  | none => exact .none
  | some token => exact .some (.inl rfl)

theorem Session.Twin.sent (sessions : session.Twin other) (task : Task) :
    other.sent task = session.sent task := by
  cases task with
  | logIn => exact sessions.logins
  | publish => exact sessions.publishes
  | lookUp => exact sessions.lookups

theorem Session.Twin.countUp (sessions : session.Twin other) (task : Task) :
    (session.countUp task).Twin (other.countUp task) := by
  obtain ⟨now, logins, publishes, lookups, token⟩ := sessions
  cases task with
  | logIn => exact ⟨now, congrArg (· + 1) logins, publishes, lookups, token⟩
  | publish => exact ⟨now, logins, congrArg (· + 1) publishes, lookups, token⟩
  | lookUp => exact ⟨now, logins, publishes, congrArg (· + 1) lookups, token⟩

/-- The clocks of twins move on together. -/
theorem Session.Twin.withNow (sessions : session.Twin other) (time : Nat) :
    ({ session with now := time } : Session).Twin { other with now := time } :=
  ⟨rfl, sessions.logins, sessions.publishes, sessions.lookups, sessions.token⟩

theorem Payload.prepare_eq (payload : Payload config password token body token' body')
    (task : Task) :
    prepare (config.withPassword password) task token' = prepare config task token := by
  cases payload with
  | login => rfl
  | later tokens body =>
      unfold prepare
      rw [tokens.all_isHeaderValue]
      rfl

theorem Payload.alike (payload : Payload config password token body token' body') (url : Url)
    (sessions : session.Twin other) :
    Alike (.sent (request url token body session)) (.sent (request url token' body' other)) := by
  unfold request
  rw [sessions.now]
  cases payload with
  | login => exact .login _ _ _ _ _ _
  | later tokens body => exact .later _ _ _ _ _

theorem Reply.Agree.fate {reply answer : Reply} (agree : reply.Agree related answer) (limit : Nat) :
    (reply.fate limit).Agree related (answer.fate limit) := by
  cases agree with
  | answer same =>
      unfold Reply.fate
      dsimp only
      split
      · exact .arrived same
      · exact .overdue
  | stall => exact .overdue
  | drop => exact .dropped

theorem Reply.Agree.span {reply answer : Reply} (agree : reply.Agree related answer) (limit : Nat) :
    answer.span limit = reply.span limit := by
  cases agree <;> rfl

theorem Reply.agree_refl (reply : Reply) : reply.Agree Eq reply := by
  cases reply with
  | answer delay status body => exact .answer rfl
  | stall => exact .stall
  | drop => exact .drop

/-- Only logins are answered in different ways. -/
theorem Server.Twin.agree_of_ne_logIn (servers : server.Twin twin) (differs : task ≠ .logIn)
    (count : Nat) :
    ((server.script task).answer count).Agree Eq ((twin.script task).answer count) := by
  cases task with
  | logIn => exact absurd rfl differs
  | publish =>
      rw [Server.script, Server.script, servers.publish]
      exact Reply.agree_refl _
  | lookUp =>
      rw [Server.script, Server.script, servers.lookup]
      exact Reply.agree_refl _

theorem send_twins {first second : Http.Request} (sessions : session.Twin other)
    (replies : ((server.script task).answer (session.sent task)).Agree related
      ((twin.script task).answer (session.sent task)))
    (alike : Alike (.sent first) (.sent second)) :
    Twins (Fate.Agree related) (send server task first limit session)
      (send twin task second limit other) := by
  unfold send
  by_cases noTime : limit = 0
  · rw [if_pos noTime, if_pos noTime]
    exact .pure .overdue sessions
  · rw [if_neg noTime, if_neg noTime, sessions.sent]
    refine ⟨replies.fate limit, ?_, .cons alike .nil⟩
    dsimp only
    rw [replies.span, sessions.now]
    exact (sessions.withNow _).countUp task

theorem Fate.Agree.answer {fate final : Fate} (agree : fate.Agree related final) (task : Task)
    (url : Url) : SaltApi.Agree related (fate.answer task url) (final.answer task url) := by
  cases agree with
  | arrived same => exact .ok same
  | overdue => exact .error _
  | dropped => exact .error _

theorem post_twins (sessions : session.Twin other)
    (replies : ((server.script task).answer (session.sent task)).Agree related
      ((twin.script task).answer (session.sent task)))
    (payload : Payload config password token body token' body') :
    Twins (Agree related) (post config server task token body limit session)
      (post (config.withPassword password) twin task token' body' limit other) := by
  unfold post
  rw [payload.prepare_eq]
  cases prepare config task token with
  | error error => exact .pure (.error error) sessions
  | ok url =>
      have sent : Twins (Fate.Agree related)
          (send server task (request url token body session) limit session)
          (send twin task (request url token' body' other) limit other) :=
        send_twins sessions replies (payload.alike url sessions)
      exact ⟨sent.result.answer task url, sent.state, sent.events⟩

theorem answerEvents_alike (task : Task) (answer : Answer) :
    List.Forall₂ Alike (answerEvents task answer) (answerEvents task answer) := by
  unfold answerEvents
  split
  · exact .nil
  · exact alike_logged _

/-- Exchanges are alike if what is read from their answers is. -/
theorem exchange_twins {α : Type} {shape : Json.Shape α} {decoded : α → α → Prop}
    (sessions : session.Twin other)
    (replies : ((server.script task).answer (session.sent task)).Agree related
      ((twin.script task).answer (session.sent task)))
    (payload : Payload config password token body token' body')
    (judged : ∀ first second, related first second →
      Agree decoded (judge task shape first) (judge task shape second) ∧
        List.Forall₂ Alike (answerEvents task first) (answerEvents task second)) :
    Twins (Agree decoded)
      (exchange config server task shape token body limit session)
      (exchange (config.withPassword password) twin task shape token' body' limit other) := by
  refine (post_twins sessions replies payload).andThen ?_
  intro first second before after same standing
  exact ⟨(judged first second same).1, standing, (judged first second same).2⟩

end Exchanges

/-! ## Queries side by side -/

section Queries

variable {config : Config} {password : String} {server twin : Server} {session other : Session}

/-- Logins whose first values hold tokens that are alike, or none both. -/
def LoginsAlike (first second : List (Option String)) : Prop :=
  Option.Rel TokensAlike (first.head?.bind id) (second.head?.bind id)

theorem loginsAlike_refl (logins : List (Option String)) : LoginsAlike logins logins := by
  unfold LoginsAlike
  cases logins.head?.bind id with
  | none => exact .none
  | some token => exact .some (.inl rfl)

theorem Answer.Grants.judge_eq {answer : Answer} (grants : answer.Grants) :
    ∃ logins token, judge .logIn loginShape answer = .ok logins ∧
      logins.head?.bind id = some token ∧ Http.isHeaderValue token = true := by
  obtain ⟨success, logins, token, decoded, found, legal⟩ := grants
  refine ⟨logins, token, ?_, found, legal⟩
  rw [judge, if_pos success, decoded]

/-- All that a login makes of its answer is the token. -/
theorem Answer.Twin.judge_agree {first second : Answer} (same : first.Twin second) :
    Agree LoginsAlike (judge .logIn loginShape first) (judge .logIn loginShape second) := by
  rcases same with rfl | ⟨grants, others⟩
  · cases judge .logIn loginShape first with
    | error error => exact .error error
    | ok logins => exact .ok (loginsAlike_refl logins)
  · obtain ⟨logins, token, judged, found, legal⟩ := grants.judge_eq
    obtain ⟨logins', token', judged', found', legal'⟩ := others.judge_eq
    rw [judged, judged']
    refine .ok ?_
    rw [LoginsAlike, found, found']
    exact .some (.inr ⟨legal, legal'⟩)

theorem keepToken_twins {logins others : List (Option String)} (alike : LoginsAlike logins others)
    (sessions : session.Twin other) :
    Twins (Agree TokensAlike) (keepToken logins session) (keepToken others other) := by
  unfold keepToken
  rw [LoginsAlike] at alike
  generalize logins.head?.bind id = token at alike ⊢
  generalize others.head?.bind id = twin at alike ⊢
  cases alike with
  | none => exact .pure (.error _) sessions
  | some tokens =>
      refine .pure (.ok tokens) ?_
      exact ⟨sessions.now, sessions.logins, sessions.publishes, sessions.lookups, .some tokens⟩

theorem logIn_twins (servers : server.Twin twin) (sessions : session.Twin other) :
    Twins (Agree TokensAlike) (logIn config server session)
      (logIn (config.withPassword password) twin other) := by
  have exchanged : Twins (Agree LoginsAlike)
      (exchange config server .logIn loginShape none (loginBody config) config.timeout session)
      (exchange (config.withPassword password) twin .logIn loginShape none
        (loginBody (config.withPassword password)) config.timeout other) := by
    refine exchange_twins sessions (servers.login _) .login ?_
    exact fun first second same => ⟨same.judge_agree, .nil⟩
  rw [logIn_eq, logIn_eq]
  refine (exchanged.andThen ?_).after (alike_logged (loginEntry config))
  exact fun logins others before after alike standing => keepToken_twins alike standing

theorem authenticate_twins (servers : server.Twin twin) (sessions : session.Twin other) :
    Twins (Agree TokensAlike) (authenticate config server session)
      (authenticate (config.withPassword password) twin other) := by
  have tokens := sessions.token
  unfold authenticate
  generalize session.token = held at tokens ⊢
  generalize other.token = kept at tokens ⊢
  cases tokens with
  | none => exact logIn_twins servers sessions
  | some alike => exact .pure (.ok alike) sessions

theorem agree_refl {ε α : Type} (result : Except ε α) : Agree Eq result result :=
  agree_eq_iff.mpr rfl

theorem publish_twins {token token' : String} (servers : server.Twin twin)
    (sessions : session.Twin other) (tokens : TokensAlike token token') (query : Query) :
    Twins (Agree Eq) (publish config server token query session)
      (publish (config.withPassword password) twin token' query other) := by
  have exchanged : Twins (Agree Eq)
      (exchange config server .publish publishShape (some token) (publishBody query)
        config.timeout session)
      (exchange (config.withPassword password) twin .publish publishShape (some token')
        (publishBody query) config.timeout other) := by
    refine exchange_twins sessions (servers.agree_of_ne_logIn (by decide) _) (.later tokens _) ?_
    rintro first _ rfl
    exact ⟨agree_refl _, answerEvents_alike _ first⟩
  rw [publish_eq, publish_eq]
  refine exchanged.andThen ?_
  rintro values _ before after rfl standing
  exact .pure (.ok rfl) standing

theorem Fate.Agree.eq {fate final : Fate} (agree : fate.Agree Eq final) : final = fate := by
  cases agree with
  | arrived same => rw [same]
  | overdue => rfl
  | dropped => rfl

section Waits

variable {job : Job} {token : String} {deadline : Nat}

@[simp] theorem withToken_token : (job.withToken token).token = token :=
  rfl

@[simp] theorem withToken_id : (job.withToken token).id = job.id :=
  rfl

@[simp] theorem withToken_missing (returns : Members Json) :
    (job.withToken token).missing returns = job.missing returns :=
  rfl

theorem lookUp_twins (servers : server.Twin twin) (sessions : session.Twin other)
    (tokens : TokensAlike job.token token) (deadline : Nat) :
    Twins (Agree Eq) (lookUp config server job deadline session)
      (lookUp (config.withPassword password) twin (job.withToken token) deadline
        other) := by
  have payload : Payload config password (some job.token) (lookupBody job.id) (some token)
      (lookupBody job.id) := .later tokens _
  have replies : ((server.script .lookUp).answer (session.sent .lookUp)).Agree Eq
      ((twin.script .lookUp).answer (session.sent .lookUp)) :=
    servers.agree_of_ne_logIn (by decide) _
  unfold lookUp
  rw [withToken_token, withToken_id, payload.prepare_eq]
  cases prepare config .lookUp (some job.token) with
  | error error => exact .pure (.error error) sessions
  | ok url =>
      have sent : Twins (Fate.Agree Eq)
          (send server .lookUp (request url (some job.token) (lookupBody job.id) session)
            (min (lookupLimit config) (deadline - session.now)) session)
          (send twin .lookUp (request url (some token) (lookupBody job.id) other)
            (min (lookupLimit config) (deadline - session.now)) other) :=
        send_twins sessions replies (payload.alike url sessions)
      obtain ⟨agree, standing, shown⟩ := sent
      have limits : lookupLimit (config.withPassword password) = lookupLimit config := rfl
      dsimp only
      rw [limits, sessions.now, agree.eq]
      split
      · exact ⟨.ok rfl, standing, shown⟩
      · split
        · exact ⟨.error _, standing, shown⟩
        · exact ⟨agree_refl _, standing, List.rel_append shown (answerEvents_alike _ _)⟩

theorem wakeTime_twins {after later : Session} (servers : server.Twin twin)
    (sessions : session.Twin other) (standing : after.Twin later) :
    wakeTime (config.withPassword password) twin deadline other later =
      wakeTime config server deadline session after := by
  unfold wakeTime unseen
  rw [servers.lookup, sessions.now, sessions.lookups, standing.now]
  rfl

theorem turnEvents_alike {first second : Step Session (Except ApiError (Option (Members Json)))}
    (shown : List.Forall₂ Alike first.events second.events)
    (found : Option (Members Json)) :
    List.Forall₂ Alike (turnEvents job first found)
      (turnEvents (job.withToken token) second found) := by
  unfold turnEvents
  refine List.rel_append shown ?_
  split
  · exact alike_logged _
  · exact .nil

/-- Both waits take the same turns, as what they find and when they wake is the same. -/
theorem waitFrom_twins (servers : server.Twin twin) (tokens : TokensAlike job.token token)
    (returns : Members Json) (sessions : session.Twin other) :
    Twins (Agree Eq) (waitFrom config server job deadline returns session)
      (waitFrom (config.withPassword password) twin (job.withToken token) deadline
        returns other) := by
  induction returns, session using waitFrom.induct config server job deadline generalizing other
  case case1 returns session look error failed =>
    obtain ⟨agree, standing, shown⟩ := lookUp_twins servers sessions tokens deadline
    have again := (agree_eq_iff.mp agree).symm.trans failed
    rw [waitFrom_of_failed failed, waitFrom_of_failed again]
    exact ⟨.error error, standing, shown⟩
  case case2 returns session look found answered current missing complete =>
    obtain ⟨agree, standing, shown⟩ := lookUp_twins servers sessions tokens deadline
    have again := (agree_eq_iff.mp agree).symm.trans answered
    rw [waitFrom_of_found answered, waitFrom_of_found again, withToken_missing, if_pos complete,
      if_pos complete]
    exact ⟨.ok rfl, standing, turnEvents_alike shown found⟩
  case case3 returns session look found answered current missing incomplete ended =>
    obtain ⟨agree, standing, shown⟩ := lookUp_twins servers sessions tokens deadline
    have again := (agree_eq_iff.mp agree).symm.trans answered
    rw [waitFrom_of_found answered, waitFrom_of_found again, withToken_missing,
      if_neg incomplete, if_neg incomplete, if_pos ended, if_pos (standing.now.symm ▸ ended)]
    exact ⟨.ok rfl, standing, List.rel_append (turnEvents_alike shown found) (alike_logged _)⟩
  case case4 returns session look found answered current missing incomplete early ih =>
    obtain ⟨agree, standing, shown⟩ := lookUp_twins servers sessions tokens deadline
    have again := (agree_eq_iff.mp agree).symm.trans answered
    rw [waitFrom_of_found answered, waitFrom_of_found again, withToken_missing,
      if_neg incomplete, if_neg incomplete, if_neg early, if_neg (standing.now.symm ▸ early),
      wakeTime_twins servers sessions standing]
    exact (ih (standing.withNow _)).after
      (List.rel_append (turnEvents_alike shown found) (alike_logged _))

end Waits

theorem waitForReturns_twins {job : Job} {token : String} (servers : server.Twin twin)
    (tokens : TokensAlike job.token token) (sessions : session.Twin other) :
    Twins (Agree Eq) (waitForReturns config server job session)
      (waitForReturns (config.withPassword password) twin (job.withToken token) other) := by
  unfold waitForReturns
  rw [sessions.now]
  exact waitFrom_twins servers tokens [] sessions

theorem collect_twins {token token' : String} (servers : server.Twin twin)
    (tokens : TokensAlike token token') (query : Query) (publication : Publication)
    (sessions : session.Twin other) :
    Twins (Agree Eq) (collect config server token query publication session)
      (collect (config.withPassword password) twin token' query publication other) := by
  cases publication with
  | job id minions =>
      have waited : Twins (Agree Eq)
          (waitForReturns config server ⟨token, id, minions⟩ session)
          (waitForReturns (config.withPassword password) twin ⟨token', id, minions⟩ other) :=
        waitForReturns_twins servers tokens sessions
      refine (waited.andThen ?_).after (alike_logged _)
      rintro collected _ before after rfl standing
      exact .pure (.ok rfl) standing
  | noMinions => exact ⟨.ok rfl, sessions, alike_logged _⟩
  | incomplete reply => exact ⟨.ok rfl, sessions, alike_logged _⟩

/-- A query comes to the same for twins, and its tokens do not come out of it. -/
theorem ask_twins (servers : server.Twin twin) (query : Query) (sessions : session.Twin other) :
    Twins Eq (ask config server query session)
      (ask (config.withPassword password) twin query other) := by
  have asked : Twins (Agree Eq) (ask config server query session)
      (ask (config.withPassword password) twin query other) := by
    refine (authenticate_twins servers sessions).andThen ?_
    intro token token' before after tokens standing
    refine (publish_twins servers standing tokens query).andThen ?_
    rintro publication _ middle later rfl standing
    exact collect_twins servers tokens query publication standing
  exact asked.mono fun _ _ => agree_eq_iff.mp

/-! ## Extractions side by side -/

theorem attempts_twins (servers : server.Twin twin) (query : Query) (most left : Nat)
    (last : List Record) (sessions : session.Twin other) :
    Twins Eq
      (Extraction.attempts (client config server) query most left last session)
      (Extraction.attempts (client (config.withPassword password) twin) query most left last
        other) := by
  induction left generalizing last session other with
  | zero => exact .pure rfl sessions
  | succ left ih =>
      have asked : Twins Eq (ask config server query session)
          (ask (config.withPassword password) twin query other) :=
        ask_twins servers query sessions
      obtain ⟨result, standing, shown⟩ := asked
      have same : ((client (config.withPassword password) twin).ask query other).result =
          ((client config server).ask query session).result :=
        congrArg (Except.mapError ApiError.message) result.symm
      have entered : List.Forall₂ Alike
          (.logged (Extraction.attemptEntry query (most - left) most) ::
            ((client config server).ask query session).events)
          (.logged (Extraction.attemptEntry query (most - left) most) ::
            ((client (config.withPassword password) twin).ask query other).events) :=
        .cons (.logged _) shown
      rw [Extraction.attempts, Extraction.attempts, same]
      cases ((client config server).ask query session).result with
      | error message => exact ⟨rfl, standing, entered⟩
      | ok records =>
          dsimp only
          split
          · exact ⟨rfl, standing, entered⟩
          · exact (ih records standing).after (List.rel_append entered (alike_logged _))

theorem extract_twins (servers : server.Twin twin) (query : Query) (most : Nat)
    (sessions : session.Twin other) :
    Twins Eq (extract (client config server) query most session)
      (extract (client (config.withPassword password) twin) query most other) := by
  have attempted : Twins Eq
      (Extraction.attempts (client config server) query most most [] session)
      (Extraction.attempts (client (config.withPassword password) twin) query most most [] other) :=
    attempts_twins servers query most most [] sessions
  obtain ⟨result, standing, shown⟩ := attempted
  unfold extract
  dsimp only
  rw [← result]
  split
  · exact ⟨rfl, standing, shown⟩
  · exact ⟨rfl, standing, shown⟩

/-- A diagnostic shows whether there is a token, but not which one. -/
theorem describe_twins (sessions : session.Twin other) :
    describe (config.withPassword password) other = describe config session := by
  have present : other.token.isSome = session.token.isSome := by
    have tokens := sessions.token
    generalize session.token = held at tokens ⊢
    generalize other.token = kept at tokens ⊢
    cases tokens <;> rfl
  unfold describe
  rw [present]
  rfl

end Queries

end SaltApi

end PillarLookup
