import PillarLookup.Proofs.SaltApi.History
import PillarLookup.Proofs.SaltApi.Phases

/-!
# The token of a client

A client keeps the first token that a login yields, for good. Until then every
query logs in, and from then on every request carries that token and none of them
is a login, whatever the replies are.
-/

namespace PillarLookup.SaltApi

/-! ## What logins have yielded -/

def isLogin (request : Http.Request) : Bool :=
  taskOf? request = some .logIn

theorem isLogin_login {token : Option String} {config : Config} {request : Http.Request}
    (posts : Posts token (loginBody config) request) : isLogin request = true :=
  decide_eq_true (taskOf?_login posts)

/-- What follows a login is no login. -/
theorem not_isLogin {token : Option String} {query : Query} {request : Http.Request}
    (posts : Posts token (publishBody query) request ∨
      ∃ id, Posts token (lookupBody id) request) : isLogin request = false := by
  rcases posts with published | ⟨id, looked⟩
  · rw [isLogin, taskOf?_publish published]
    rfl
  · rw [isLogin, taskOf?_lookup looked]
    rfl

/-- The first token in the replies to the logins among some requests. -/
def tokenGranted (server : Server) (limit : Nat) (past : List Http.Request) : Option String :=
  (List.range (past.countP isLogin)).findSome? (server.granted limit)

/-- A request that carries the token yielded so far, and logs in if there is none. -/
def Carries (server : Server) (limit : Nat) (past : List Http.Request) (request : Http.Request) :
    Prop :=
  request.token = tokenGranted server limit past ∧
    (isLogin request = true ↔ tokenGranted server limit past = none)

def AllCarry (server : Server) (limit : Nat) (sent : List Http.Request) : Prop :=
  ∀ before request after, sent = before ++ request :: after → Carries server limit before request

section Granted

variable {server : Server} {limit : Nat} {past rest : List Http.Request} {request : Http.Request}

theorem tokenGranted_append_of_no_login (others : ∀ request ∈ rest, isLogin request = false) :
    tokenGranted server limit (past ++ rest) = tokenGranted server limit past := by
  have none : rest.countP isLogin = 0 := by
    rw [List.countP_eq_zero]
    intro request listed
    simp [others request listed]
  rw [tokenGranted, List.countP_append, none, Nat.add_zero, tokenGranted]

theorem tokenGranted_append {token : String}
    (granted : tokenGranted server limit past = some token) :
    tokenGranted server limit (past ++ rest) = some token := by
  rw [tokenGranted] at granted
  rw [tokenGranted, List.countP_append, List.range_add, List.findSome?_append, granted,
    Option.some_or]

theorem tokenGranted_append_login (login : isLogin request = true) :
    tokenGranted server limit (past ++ [request]) =
      (tokenGranted server limit past).or (server.granted limit (past.countP isLogin)) := by
  rw [tokenGranted, tokenGranted, List.countP_append, List.countP_singleton, if_pos login,
    List.range_succ, List.findSome?_append, List.findSome?_singleton]

theorem allCarry_nil : AllCarry server limit [] := by
  intro before request after split
  simp at split

theorem AllCarry.append (all : AllCarry server limit past)
    (others : ∀ before request after, rest = before ++ request :: after →
      Carries server limit (past ++ before) request) :
    AllCarry server limit (past ++ rest) := by
  intro before request after split
  rcases List.append_eq_append_iff.mp split with
    ⟨between, rfl, rest⟩ | ⟨between, rfl, rest⟩
  · exact others between request after rest
  · cases between with
    | nil =>
        have same := others [] request after rest.symm
        rw [List.append_nil, List.append_nil] at same
        exact same
    | cons first between =>
        obtain ⟨rfl, rfl⟩ := List.cons.inj rest
        exact all before request between rfl

end Granted

/-! ## Sessions that go with what was sent -/

/-- A session that has kept what the logins among the requests sent so far have yielded. -/
structure Coherent (config : Config) (server : Server) (session : Session)
    (past : List Http.Request) : Prop where
  logins_eq : session.logins = past.countP isLogin
  token_eq : session.token = tokenGranted server config.timeout past
  carried : AllCarry server config.timeout past

namespace Coherent

variable {config : Config} {server : Server} {session after : Session}
  {past rest : List Http.Request}

theorem start : Coherent config server .start [] :=
  ⟨rfl, rfl, allCarry_nil⟩

/-- Requests with the token of the session, none of them a login, change nothing. -/
theorem follow (coherent : Coherent config server session past)
    (token : after.token = session.token) (logins : after.logins = session.logins)
    (carried : ∀ request ∈ rest, request.token = session.token ∧ session.token ≠ none ∧
      isLogin request = false) :
    Coherent config server after (past ++ rest) := by
  have same : ∀ before, (∀ request ∈ before, request ∈ rest) →
      tokenGranted server config.timeout (past ++ before) = session.token := by
    intro before within
    rw [coherent.token_eq]
    exact tokenGranted_append_of_no_login fun request listed =>
      (carried request (within request listed)).2.2
  refine ⟨?_, ?_, coherent.carried.append ?_⟩
  · have none : rest.countP isLogin = 0 := by
      rw [List.countP_eq_zero]
      intro request listed
      simp [(carried request listed).2.2]
    rw [List.countP_append, none, logins]
    exact coherent.logins_eq
  · rw [same rest fun request listed => listed]
    exact token
  · rintro before request later rfl
    obtain ⟨held, cached, other⟩ := carried request (by simp)
    rw [Carries, same before fun request listed => List.mem_append_left _ listed]
    exact ⟨held, by simp [other, cached]⟩

theorem authenticate (coherent : Coherent config server session past) :
    let login := SaltApi.authenticate config server session
    Coherent config server login.state (past ++ requestsOf login.events) := by
  rcases authenticate_cases config server session with
    ⟨token, held, step⟩ | ⟨empty, -, state, silent, -⟩ |
    ⟨empty, -, state, ⟨request, sent, posts⟩, -⟩
  · dsimp only
    rw [step, Step.pure_state, Step.pure_events, requestsOf_nil, List.append_nil]
    exact coherent
  · dsimp only
    rw [state, silent, List.append_nil]
    exact coherent
  · have login := isLogin_login posts
    have nothing : tokenGranted server config.timeout past = none :=
      coherent.token_eq.symm.trans empty
    dsimp only
    rw [state, sent]
    refine ⟨?_, ?_, coherent.carried.append ?_⟩
    · rw [List.countP_append, List.countP_singleton, if_pos login, ← coherent.logins_eq]
      rfl
    · rw [tokenGranted_append_login login, nothing, Option.none_or, ← coherent.logins_eq]
    · intro before other later split
      obtain ⟨rfl, rfl⟩ : before = [] ∧ other = request := by
        cases before with
        | nil => exact ⟨rfl, (List.cons.inj split).1.symm⟩
        | cons first before => simp at split
      rw [List.append_nil, Carries, nothing, posts.token_eq]
      exact ⟨rfl, by simp [login]⟩

theorem ask (coherent : Coherent config server session past) (query : Query) :
    let step := SaltApi.ask config server query session
    Coherent config server step.state (past ++ requestsOf step.events) := by
  obtain ⟨token, logins, rest, sent, posts⟩ := ask_after_login config server query session
  obtain ⟨-, -, -, kept, -⟩ := authenticate_frame config server session
  dsimp only
  rw [sent, ← List.append_assoc]
  apply coherent.authenticate.follow token logins
  intro request listed
  obtain ⟨held, authenticated, posted⟩ := posts request listed
  rw [kept held authenticated]
  refine ⟨?_, Option.some_ne_none held, not_isLogin posted⟩
  rcases posted with published | ⟨id, looked⟩
  · exact published.token_eq
  · exact looked.token_eq

/-- A query logs in if and only if no token has been yielded yet and a login can be sent. -/
theorem logs_in_iff (coherent : Coherent config server session past) (query : Query) :
    (∃ request ∈ requestsOf (SaltApi.ask config server query session).events,
        isLogin request = true) ↔
      tokenGranted server config.timeout past = none ∧
        Sendable config .logIn none config.timeout := by
  obtain ⟨-, -, rest, sent, posts⟩ := ask_after_login config server query session
  have none : ¬ ∃ request ∈ rest, isLogin request = true := by
    rintro ⟨request, listed, login⟩
    obtain ⟨held, -, posted⟩ := posts request listed
    rw [not_isLogin posted] at login
    cases login
  rw [sent, ← coherent.token_eq]
  rcases authenticate_cases config server session with
    ⟨token, held, step⟩ | ⟨empty, unsent, -, silent, -⟩ |
    ⟨empty, sendable, -, ⟨request, login, posted⟩, -⟩
  · rw [step, Step.pure_events, requestsOf_nil, List.nil_append, held]
    apply iff_of_false none
    rintro ⟨contrary, -⟩
    cases contrary
  · rw [silent, List.nil_append]
    apply iff_of_false none
    rintro ⟨-, sendable⟩
    exact unsent sendable
  · rw [login]
    constructor
    · intro _
      exact ⟨empty, sendable⟩
    · intro _
      exact ⟨request, List.mem_cons_self .., isLogin_login posted⟩

/-- A login that fails, in whatever way, leaves no token behind. -/
theorem token_of_failed (empty : session.token = none) (query : Query)
    (failed : ∀ token, (logIn config server session).result ≠ .ok token) :
    (SaltApi.ask config server query session).state.token = none := by
  rw [(ask_after_login config server query session).1]
  have same : SaltApi.authenticate config server session = logIn config server session := by
    rw [SaltApi.authenticate, empty]
  rcases authenticate_cases config server session with
    ⟨token, held, -⟩ | ⟨-, -, state, -⟩ | ⟨-, -, state, -, granted⟩
  · rw [empty] at held
    cases held
  · rw [state]
    exact empty
  · rw [state]
    rw [same] at granted
    rw [Option.eq_none_iff_forall_ne_some]
    intro token yielded
    exact failed token ((granted token).mpr yielded)

end Coherent

/-! ## Diagnostics -/

theorem describe_eq (config : Config) (session : Session) :
    describe config session =
      "SaltApiClient \x7b config: " ++ config.describe ++ ", token: " ++
        (if session.token.isSome then "\"<redacted>\"" else "\"<none>\"") ++ " \x7d" := by
  unfold describe
  split
  · rfl
  · rfl

/-! ## Whole histories -/

/-- Every session that the history knows of goes with the requests sent before. -/
structure Consistent (config : Config) (server : Server) (history : History) : Prop where
  coherent : Coherent config server history.session history.sent
  calls : ∀ call ∈ history.calls, Coherent config server call.session call.past
  displays : ∀ display ∈ history.displays, ∃ session,
    Coherent config server session display.past ∧ display.text = describe config session

section Runs

variable (config : Config) (server : Server)

theorem consistent_run (actions : List Action) :
    Consistent config server (History.run config server actions) := by
  refine run_preserves (Consistent config server) ⟨.start, by simp [History.start],
    by simp [History.start]⟩ ?_ ?_ actions
  · rintro query history ⟨coherent, calls, displays⟩
    refine ⟨coherent.ask query, ?_, displays⟩
    intro call listed
    rcases List.mem_append.mp listed with earlier | last
    · exact calls call earlier
    · rw [List.mem_singleton.mp last]
      exact coherent
  · rintro history ⟨coherent, calls, displays⟩
    refine ⟨coherent, calls, ?_⟩
    intro display listed
    rcases List.mem_append.mp listed with earlier | last
    · exact displays display earlier
    · rw [List.mem_singleton.mp last]
      exact ⟨history.session, coherent, rfl⟩

/--
Until a login yields a token, every query logs in if it can, and a login that fails
leaves no token. After the first token nothing logs in any more, and every request
but the logins, which carry none, carries that token. A diagnostic shows only
whether there is one.
-/
theorem token_is_kept (actions : List Action) :
    let history := History.run config server actions
    let granted := tokenGranted server config.timeout
    (∀ call ∈ history.calls,
      ((∃ request ∈ call.requests config server, isLogin request = true) ↔
        granted call.past = none ∧ Sendable config .logIn none config.timeout) ∧
      let after := (ask config server call.query call.session).state
      (granted call.past = none →
        (∀ token, (logIn config server call.session).result ≠ .ok token) → after.token = none) ∧
      after.token = granted (call.past ++ call.requests config server)) ∧
    (∀ before after token, history.sent = before ++ after → granted before = some token →
      ∀ request ∈ after, isLogin request = false ∧ request.token = some token) ∧
    (∀ request ∈ history.sent, if isLogin request then request.token = none else
      ∃ token, granted history.sent = some token ∧ request.token = some token) ∧
    ∀ display ∈ history.displays,
      display.text =
        "SaltApiClient \x7b config: " ++ config.describe ++ ", token: " ++
          (if (granted display.past).isSome then "\"<redacted>\"" else "\"<none>\"") ++
          " \x7d" := by
  obtain ⟨coherent, calls, displays⟩ := consistent_run config server actions
  refine ⟨?_, ?_, ?_, ?_⟩
  · intro call listed
    have before := calls call listed
    refine ⟨before.logs_in_iff call.query, ?_, (before.ask call.query).token_eq⟩
    intro nothing failed
    exact Coherent.token_of_failed (before.token_eq.trans nothing) call.query failed
  · intro before after token split granted request listed
    obtain ⟨first, last, rfl⟩ := List.append_of_mem listed
    obtain ⟨held, login⟩ := coherent.carried (before ++ first) request last (by simp [split])
    rw [tokenGranted_append granted] at held login
    refine ⟨?_, held⟩
    cases other : isLogin request with
    | false => rfl
    | true => cases login.mp other
  · intro request listed
    obtain ⟨before, after, split⟩ := List.append_of_mem listed
    obtain ⟨held, login⟩ := coherent.carried before request after split
    split
    · rename_i logs
      rw [held]
      exact login.mp logs
    · rename_i other
      obtain ⟨token, granted⟩ := Option.ne_none_iff_exists'.mp fun nothing =>
        other (login.mpr nothing)
      rw [split]
      exact ⟨token, tokenGranted_append granted, held.trans granted⟩
  · intro display listed
    obtain ⟨session, before, shown⟩ := displays display listed
    rw [shown, describe_eq, before.token_eq]

end Runs

end PillarLookup.SaltApi
