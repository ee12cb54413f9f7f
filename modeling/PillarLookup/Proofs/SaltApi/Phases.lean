import PillarLookup.Proofs.Extraction
import PillarLookup.Proofs.Json.RoundTrip
import PillarLookup.Proofs.SaltApi.Course

/-!
# The phases of an extraction

An extraction logs in once at most, publishes as long as the replies are
incomplete, and looks up nothing but the job of the last reply. A job that was
accepted is never published again, as it ends in two records or in an error.
-/

namespace PillarLookup.SaltApi

open Json (Regular decode_text)

/-! ## What the body of a request tells -/

/-- The task that the body of a request asks for; a login names no client. -/
def taskOf? (request : Http.Request) : Option Task :=
  match Json.decode request.body with
  | .ok (.obj _) => some .logIn
  | .ok (.arr (command :: _)) =>
      match (command.get? "client").bind Json.asString? with
      | some "local_async" => some .publish
      | some "runner" => some .lookUp
      | _ => none
  | _ => none

theorem ascending_of_keys {α : Type} {members : Members α} (keys : List String)
    (same : members.keys = keys) (ascending : keys.Pairwise fun first second => first < second) :
    members.Ascending := by
  subst same
  exact List.pairwise_map.mp ascending

theorem regular_loginBody (config : Config) : Regular 3 (loginBody config) := by
  refine (Json.regular_obj 2 _).mpr ⟨?_, by simp⟩
  exact ascending_of_keys ["eauth", "password", "username"] rfl (by decide)

theorem regular_publishBody (query : Query) : Regular 3 (publishBody query) := by
  refine (Json.regular_arr 2 _).mpr ?_
  intro command listed
  rw [List.mem_singleton.mp listed]
  refine (Json.regular_obj 1 _).mpr ⟨?_, by simp⟩
  exact ascending_of_keys ["arg", "client", "fun", "tgt", "tgt_type"] rfl (by decide)

theorem regular_lookupBody (id : String) : Regular 3 (lookupBody id) := by
  refine (Json.regular_arr 2 _).mpr ?_
  intro command listed
  rw [List.mem_singleton.mp listed]
  refine (Json.regular_obj 1 _).mpr ⟨?_, by simp⟩
  exact ascending_of_keys ["client", "fun", "jid"] rfl (by decide)

section Bodies

variable {token : Option String} {request : Http.Request}

/-- The body that was posted is the body that is read. -/
theorem Posts.decode_body {body : Json} (posts : Posts token body request)
    (regular : Regular 3 body) (whole : body.integral = true) :
    Json.decode request.body = .ok body := by
  rw [posts.body_eq]
  exact decode_text (regular.mono (by decide)) whole

theorem taskOf?_login {config : Config} (posts : Posts token (loginBody config) request) :
    taskOf? request = some .logIn := by
  have body := posts.decode_body (regular_loginBody config) rfl
  rw [taskOf?, body]
  rfl

theorem taskOf?_publish {query : Query} (posts : Posts token (publishBody query) request) :
    taskOf? request = some .publish := by
  have body := posts.decode_body (regular_publishBody query) rfl
  rw [taskOf?, body]
  rfl

theorem taskOf?_lookup {id : String} (posts : Posts token (lookupBody id) request) :
    taskOf? request = some .lookUp := by
  have body := posts.decode_body (regular_lookupBody id) rfl
  rw [taskOf?, body]
  rfl

end Bodies

/-! ## Requests in their phases -/

/--
What a session sends before it is another: logins, up to `most` publications, and
lookups. Every publication but the last had an incomplete reply, and the lookups
are of the job in the reply to the last.
-/
structure InPhases (config : Config) (server : Server) (query : Query) (session after : Session)
    (most : Nat) (logins publishes lookups : List Http.Request) : Prop where
  logins_eq : after.logins = session.logins + logins.length
  publishes_eq : after.publishes = session.publishes + publishes.length
  lookups_eq : after.lookups = session.lookups + lookups.length
  logins_le : logins.length ≤ 1
  publishes_le : publishes.length ≤ most
  cached : session.token ≠ none → logins = []
  logs_in : ∀ request ∈ logins, Posts none (loginBody config) request
  asks : ∀ request ∈ publishes, ∃ token, Posts (some token) (publishBody query) request
  retried : ∀ index, index + 1 < publishes.length → ∃ reply,
    server.published config.timeout (session.publishes + index) = some reply ∧
      IsIncomplete reply
  looks_up : ∀ request ∈ lookups, ∃ last reply id token, publishes.length = last + 1 ∧
    server.published config.timeout (session.publishes + last) = some reply ∧
      Publication.jobId? reply = some id ∧ Posts (some token) (lookupBody id) request

namespace InPhases

variable {config : Config} {server : Server} {query : Query} {session middle after : Session}
  {most left : Nat} {logins publishes later lookups : List Http.Request}

theorem mono (phases : InPhases config server query session after left logins publishes lookups)
    (within : left ≤ most) :
    InPhases config server query session after most logins publishes lookups :=
  { phases with publishes_le := Nat.le_trans phases.publishes_le within }

/-- Where nothing is sent, nothing is out of place. -/
theorem nothing (config : Config) (server : Server) (query : Query) (session : Session) :
    InPhases config server query session session 0 [] [] [] :=
  ⟨rfl, rfl, rfl, Nat.zero_le 1, Nat.le_refl 0, fun _ => rfl, by simp, by simp, by simp, by simp⟩

/-- A login that no publication follows. -/
theorem of_authenticate (config : Config) (server : Server) (query : Query) (session : Session) :
    let login := authenticate config server session
    InPhases config server query session login.state 0 (requestsOf login.events) [] [] := by
  obtain ⟨logins, publishes, lookups, -, atMostOne, cached, posts⟩ :=
    authenticate_frame config server session
  exact ⟨logins, publishes, lookups, atMostOne, Nat.le_refl 0, cached, posts, by simp, by simp,
    by simp⟩

/-- One publication after a login, and lookups of the job in its reply. -/
theorem of_publish {request : Http.Request} {token : String}
    (phases : InPhases config server query session middle 0 logins [] [])
    (posts : Posts (some token) (publishBody query) request)
    (logins_same : after.logins = middle.logins)
    (published : after.publishes = middle.publishes + 1)
    (looked : after.lookups = middle.lookups + lookups.length)
    (looks_up : ∀ lookup ∈ lookups, ∃ reply id token,
      server.published config.timeout session.publishes = some reply ∧
        Publication.jobId? reply = some id ∧ Posts (some token) (lookupBody id) lookup) :
    InPhases config server query session after 1 logins [request] lookups := by
  refine ⟨logins_same.trans phases.logins_eq, ?_, ?_, phases.logins_le, Nat.le_refl 1,
    phases.cached, phases.logs_in, ?_, ?_, ?_⟩
  · rw [published, phases.publishes_eq]
    rfl
  · rw [looked, phases.lookups_eq]
    rfl
  · intro member listed
    exact ⟨token, List.mem_singleton.mp listed ▸ posts⟩
  · intro index within
    simp at within
  · intro lookup listed
    obtain ⟨reply, id, token, found⟩ := looks_up lookup listed
    exact ⟨0, reply, id, token, rfl, found⟩

/-- What is collected after a publication is looked up for the job in its reply. -/
theorem of_collect {login : Session} {request : Http.Request} {token : String} {reply : Json}
    (phases : InPhases config server query session login 0 logins [] [])
    (posts : Posts (some token) (publishBody query) request)
    (held : server.published config.timeout session.publishes = some reply) :
    let middle := login.awaited server .publish config.timeout
    let rest := collect config server token query (.ofValue reply) middle
    InPhases config server query session rest.state 1 logins [request]
      (requestsOf rest.events) := by
  obtain ⟨-, logins, publishes, lookups, looked⟩ := collect_frame config server token query
    (.ofValue reply) (login.awaited server .publish config.timeout)
  apply phases.of_publish posts logins publishes lookups
  intro lookup listed
  obtain ⟨id, minions, job, asked⟩ := looked lookup listed
  exact ⟨reply, id, token, held, (ofValue_eq_job_iff.mp job).1, asked⟩

/-- After an incomplete reply the publications go on with those of the next attempts. -/
theorem retry {reply : Json}
    (phases : InPhases config server query session middle 1 logins publishes [])
    (one : publishes.length = 1)
    (held : server.published config.timeout session.publishes = some reply)
    (incomplete : IsIncomplete reply)
    (rest : InPhases config server query middle after left [] later lookups) :
    InPhases config server query session after (left + 1) logins (publishes ++ later)
      lookups := by
  have total : (publishes ++ later).length = later.length + 1 := by
    rw [List.length_append, one, Nat.add_comm]
  have shift : ∀ index, middle.publishes + index = session.publishes + (index + 1) := by
    intro index
    rw [phases.publishes_eq, one, Nat.add_assoc, Nat.add_comm 1]
  refine ⟨rest.logins_eq.trans phases.logins_eq, ?_, ?_, phases.logins_le, ?_, phases.cached,
    phases.logs_in, ?_, ?_, ?_⟩
  · rw [rest.publishes_eq, shift, total]
  · rw [rest.lookups_eq, phases.lookups_eq]
    rfl
  · rw [total]
    exact Nat.succ_le_succ rest.publishes_le
  · intro request listed
    rcases List.mem_append.mp listed with first | following
    · exact phases.asks request first
    · exact rest.asks request following
  · intro index within
    cases index with
    | zero => exact ⟨reply, held, incomplete⟩
    | succ index =>
        rw [total, Nat.add_lt_add_iff_right] at within
        rw [← shift]
        exact rest.retried index within
  · intro request listed
    obtain ⟨last, reply, id, token, length, held, found⟩ := rest.looks_up request listed
    rw [shift] at held
    exact ⟨last + 1, reply, id, token, total.trans (congrArg Nat.succ length), held, found⟩

/-- The bodies of the requests tell their phases. -/
theorem map_taskOf? (phases : InPhases config server query session after most logins publishes
      lookups) :
    (logins ++ publishes ++ lookups).map taskOf? =
      List.replicate logins.length (some .logIn) ++
        List.replicate publishes.length (some .publish) ++
        List.replicate lookups.length (some .lookUp) := by
  have logs : logins.map taskOf? = List.replicate logins.length (some .logIn) :=
    List.map_eq_replicate_iff.mpr fun request listed =>
      taskOf?_login (phases.logs_in request listed)
  have asked : publishes.map taskOf? = List.replicate publishes.length (some .publish) := by
    refine List.map_eq_replicate_iff.mpr fun request listed => ?_
    obtain ⟨token, posts⟩ := phases.asks request listed
    exact taskOf?_publish posts
  have looked : lookups.map taskOf? = List.replicate lookups.length (some .lookUp) := by
    refine List.map_eq_replicate_iff.mpr fun request listed => ?_
    obtain ⟨last, reply, id, token, -, -, -, posts⟩ := phases.looks_up request listed
    exact taskOf?_lookup posts
  rw [List.map_append, List.map_append, logs, asked, looked]

/-- A request that looks up is one of the lookups. -/
theorem mem_lookups {request : Http.Request}
    (phases : InPhases config server query session after most logins publishes lookups)
    (listed : request ∈ logins ++ publishes ++ lookups)
    (looks : taskOf? request = some .lookUp) : request ∈ lookups := by
  rcases List.mem_append.mp listed with earlier | lookup
  · rcases List.mem_append.mp earlier with login | publish
    · rw [taskOf?_login (phases.logs_in request login)] at looks
      cases looks
    · obtain ⟨token, posts⟩ := phases.asks request publish
      rw [taskOf?_publish posts] at looks
      cases looks
  · exact lookup

end InPhases

/-! ## Attempts -/

section Attempts

variable (config : Config) (server : Server) (query : Query) (session : Session)

/--
A query sends its requests in their phases. A single record comes of an incomplete
reply only, after which nothing is looked up.
-/
theorem ask_inPhases :
    let step := ask config server query session
    ∃ logins publishes lookups, requestsOf step.events = logins ++ publishes ++ lookups ∧
      InPhases config server query session step.state 1 logins publishes lookups ∧
      ∀ records, step.result = .ok records → ¬ 1 < records.length →
        lookups = [] ∧ publishes.length = 1 ∧ step.state.token ≠ none ∧
          ∃ reply, server.published config.timeout session.publishes = some reply ∧
            IsIncomplete reply := by
  have login := InPhases.of_authenticate config server query session
  obtain ⟨-, counted, -, cached, -⟩ := authenticate_frame config server session
  rcases ask_cases config server query session with
    ⟨error, -, step⟩ | ⟨token, error, -, -, step⟩ |
    ⟨token, request, authenticated, -, posts, published⟩
  · dsimp only
    rw [step]
    refine ⟨_, [], [], ?_, login.mono (Nat.zero_le 1), by simp⟩
    rw [List.append_nil, List.append_nil]
  · dsimp only
    rw [step]
    refine ⟨_, [], [], ?_, login.mono (Nat.zero_le 1), by simp⟩
    rw [List.append_nil, List.append_nil]
  · dsimp only at published ⊢
    rw [counted] at published
    rcases published with ⟨error, -, failed, state, sent⟩ | ⟨reply, held, result, state, sent⟩
    · refine ⟨_, [request], [], ?_, login.of_publish posts ?_ ?_ ?_ (by simp), ?_⟩
      · rw [sent, List.append_nil]
      · rw [state]
        rfl
      · rw [state]
        rfl
      · rw [state]
        rfl
      · rw [failed]
        simp
    · have phases := login.of_collect posts held
      dsimp only at phases
      rw [← state] at phases
      refine ⟨_, [request], _, ?_, phases, ?_⟩
      · rw [sent, List.append_assoc, List.singleton_append]
      · intro records answered few
        rw [result] at answered
        obtain ⟨text, publication⟩ := exists_incomplete_of_length_le_one config server token query
          (.ofValue reply) _ answered (Nat.le_of_not_lt few)
        refine ⟨?_, rfl, ?_, reply, held, (ofValue_eq_incomplete_iff.mp publication).1⟩
        · rw [publication]
          rfl
        · rw [state, publication]
          exact (cached token authenticated).trans_ne (Option.some_ne_none token)

theorem attempts_inPhases (most left : Nat) (last : List Record) :
    let step := Extraction.attempts (client config server) query most left last session
    ∃ logins publishes lookups, requestsOf step.events = logins ++ publishes ++ lookups ∧
      InPhases config server query session step.state left logins publishes lookups := by
  induction left, last, session
      using Extraction.attempts.induct (client config server) query most with
  | case1 last session =>
      exact ⟨[], [], [], rfl, InPhases.nothing config server query session⟩
  | case2 left last session answer message failed =>
      obtain ⟨logins, publishes, lookups, sent, phases, -⟩ :=
        ask_inPhases config server query session
      obtain ⟨-, state, same⟩ := Extraction.attempts_of_error failed
      refine ⟨logins, publishes, lookups, same.trans sent, ?_⟩
      rw [state]
      exact phases.mono (Nat.le_add_left 1 left)
  | case3 left last session answer records answered full =>
      obtain ⟨logins, publishes, lookups, sent, phases, -⟩ :=
        ask_inPhases config server query session
      obtain ⟨-, state, same⟩ := Extraction.attempts_of_full answered full
      refine ⟨logins, publishes, lookups, same.trans sent, ?_⟩
      rw [state]
      exact phases.mono (Nat.le_add_left 1 left)
  | case4 left last session answer records answered few ih =>
      obtain ⟨logins, publishes, lookups, sent, phases, retried⟩ :=
        ask_inPhases config server query session
      obtain ⟨rfl, one, cached, reply, held, incomplete⟩ :=
        retried records ((client_ask_eq_ok_iff config server query session).mp answered) few
      obtain ⟨relogins, later, lookups, following, rest⟩ := ih
      -- The token that the first attempt has left makes another login needless.
      obtain rfl := rest.cached cached
      obtain ⟨-, state, both⟩ := Extraction.attempts_of_few answered few
      refine ⟨logins, publishes ++ later, lookups, ?_, ?_⟩
      · rw [both, following]
        change requestsOf (ask config server query session).events ++ _ = _
        rw [sent]
        simp only [List.append_nil, List.nil_append, List.append_assoc]
      · rw [state]
        exact phases.retry one held incomplete rest

/--
An accepted job is never published twice. An extraction logs in once at most, then
publishes, `most` times at the most, and then looks up. Every publication but the
last had an incomplete reply. Every lookup is of the job in the reply to the last
publication, and without a job there nothing is looked up.
-/
theorem extract_publishes_until_accepted (most : Nat) :
    let step := extract (client config server) query most session
    let sent := requestsOf step.events
    let reply := fun index => server.published config.timeout (session.publishes + index)
    ∃ logins publishes lookups,
      sent.map taskOf? =
        List.replicate logins (some .logIn) ++ List.replicate publishes (some .publish) ++
          List.replicate lookups (some .lookUp) ∧
      step.state.publishes = session.publishes + publishes ∧
      logins ≤ 1 ∧ publishes ≤ most ∧
      (∀ index, index + 1 < publishes → ∃ value, reply index = some value ∧
        IsIncomplete value) ∧
      (∀ request ∈ sent, taskOf? request = some .lookUp → ∃ last id, publishes = last + 1 ∧
        (reply last).bind Publication.jobId? = some id ∧
        Json.decode request.body = .ok (lookupBody id)) ∧
      ∀ last, publishes = last + 1 → (reply last).bind Publication.jobId? = none →
        lookups = 0 := by
  obtain ⟨state, events⟩ := extract_frame (client config server) query most session
  obtain ⟨logins, publishes, lookups, sent, phases⟩ :=
    attempts_inPhases config server query session most most []
  dsimp only
  rw [state, events, sent]
  refine ⟨logins.length, publishes.length, lookups.length, phases.map_taskOf?,
    phases.publishes_eq, phases.logins_le, phases.publishes_le, phases.retried, ?_, ?_⟩
  · intro request listed looks
    obtain ⟨last, reply, id, token, length, held, found, posts⟩ :=
      phases.looks_up request (phases.mem_lookups listed looks)
    refine ⟨last, id, length, ?_, posts.decode_body (regular_lookupBody id) rfl⟩
    rw [held]
    exact found
  · intro last length jobless
    rw [List.length_eq_zero_iff, List.eq_nil_iff_forall_not_mem]
    intro request listed
    obtain ⟨other, reply, id, token, same, held, found, -⟩ := phases.looks_up request listed
    obtain rfl : other = last := Nat.succ.inj (same.symm.trans length)
    rw [held, Option.bind_some, found] at jobless
    cases jobless

end Attempts

end PillarLookup.SaltApi
