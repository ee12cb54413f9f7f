import PillarLookup.Proofs.SaltApi.Elapsed
import PillarLookup.Proofs.SaltApi.Phases
import PillarLookup.Proofs.SaltApi.Yield

/-!
# The pace of the lookups

The lookups of a query start a poll interval apart or more, from the reply to the
publication on and before the deadline, which bounds their number. One of them may
still be running at the deadline, and it is the last.
-/

namespace PillarLookup.SaltApi

/-! ## The lookups of a schedule -/

namespace Watch

/-- The request of a lookup, whether or not there is time for it. -/
def lookup (watch : Watch) (began index : Nat) : Http.Request :=
  ⟨watch.url.target, some watch.job.token, (lookupBody watch.job.id).text,
    began + watch.start index⟩

section Schedule

variable {watch : Watch} {began index count : Nat} {session : Session}

theorem flatMap_requests (started : ∀ index < count, watch.start index < watch.config.timeout) :
    (List.range count).flatMap (watch.requests began) =
      (List.range count).map (watch.lookup began) := by
  induction count with
  | zero => rfl
  | succ count ih =>
      have last : watch.requests began count = [watch.lookup began count] :=
        if_pos (started count (Nat.lt_succ_self count))
      rw [List.range_succ, List.flatMap_append, List.flatMap_singleton, List.map_append, last,
        ih fun index less => started index (Nat.lt_succ_of_lt less)]
      rfl

theorem start_lt_of_goesOn (goes : watch.GoesOn index) :
    watch.start index < watch.config.timeout := by
  obtain ⟨returns, decided, -⟩ := goes
  rcases watch.abandoned_or_finish_lt index with gone | times
  · rw [decided] at gone
    cases gone
  · exact times.1

/-- A wait sends the first lookups of its schedule, and goes on after each but the last. -/
theorem exists_lookups
    (prepared : prepare watch.config .lookUp (some watch.job.token) = .ok watch.url)
    (polls : 0 < watch.config.pollInterval) (stands : watch.Stands began 0 session) :
    ∃ count, requestsOf (watch.resume began 0 session).events =
        (List.range count).map (watch.lookup began) ∧
      (∀ index < count, watch.start index < watch.config.timeout) ∧
      ∀ index, index + 1 < count → watch.GoesOn index := by
  obtain ⟨last, ends, goes⟩ := watch.exists_first_end polls
  obtain ⟨-, -, sent⟩ := resume_zero_eq prepared polls stands goes ends
  have before : ∀ index < last, watch.start index < watch.config.timeout :=
    fun index less => start_lt_of_goesOn (goes index less)
  by_cases early : watch.start last < watch.config.timeout
  · have started : ∀ index < last + 1, watch.start index < watch.config.timeout := by
      intro index less
      rcases Nat.lt_succ_iff_lt_or_eq.mp less with earlier | rfl
      · exact before index earlier
      · exact early
    refine ⟨last + 1, sent.trans (flatMap_requests started), started, ?_⟩
    intro index less
    exact goes index (Nat.lt_of_succ_lt_succ less)
  · have unsent : watch.requests began last = [] := if_neg early
    refine ⟨last, ?_, before, fun index less => goes index (Nat.lt_of_succ_lt less)⟩
    rw [sent, List.range_succ, List.flatMap_append, List.flatMap_singleton, unsent,
      List.append_nil, flatMap_requests before]

theorem start_add_le {later : Nat} (before : index < later)
    (started : watch.start later < watch.config.timeout) :
    watch.start index + watch.config.pollInterval ≤ watch.start later := by
  induction before with
  | refl =>
      have finished := watch.start_le_finish index
      rw [start_succ] at started ⊢
      omega
  | @step later _ ih =>
      have finished := watch.start_le_finish later
      rw [start_succ] at started ⊢
      have earlier := ih (by omega)
      omega

/-- The starts are a poll interval apart, which leaves room for so many of them only. -/
theorem count_le (polls : 0 < watch.config.pollInterval)
    (started : ∀ index < count, watch.start index < watch.config.timeout) :
    count ≤ watch.config.timeout ⌈/⌉ watch.config.pollInterval := by
  apply Nat.le_of_not_lt
  intro more
  have early := started _ more
  have reached := watch.min_le_start (watch.config.timeout ⌈/⌉ watch.config.pollInterval)
  have enough : watch.config.timeout ≤
      watch.config.timeout ⌈/⌉ watch.config.pollInterval * watch.config.pollInterval := by
    rw [Nat.mul_comm]
    exact (ceilDiv_le_iff_le_mul polls).mp (Nat.le_refl _)
  omega

theorem abandoned_of_overdue
    (overdue : (watch.reply index).fate (watch.config.timeout - watch.start index) = .overdue) :
    watch.verdict index = .abandoned := by
  rw [verdict, overdue]
  split <;> rfl

end Schedule

end Watch

/--
Lookups of a wait that began at a given time, the first of them after `earlier` others.
The last one may be without a reply at the deadline.
-/
structure Paced (config : Config) (server : Server) (earlier began : Nat)
    (lookups : List Http.Request) : Prop where
  length_le : lookups.length ≤ config.timeout ⌈/⌉ config.pollInterval
  apart : lookups.Pairwise fun first second =>
    first.sentAt + config.pollInterval ≤ second.sentAt
  within : ∀ lookup ∈ lookups,
    began ≤ lookup.sentAt ∧ lookup.sentAt < began + config.timeout
  last_of_overdue : ∀ index lookup, lookups[index]? = some lookup →
    (server.lookup.answer (earlier + index)).fate (began + config.timeout - lookup.sentAt) =
      .overdue → index + 1 = lookups.length

namespace Paced

variable {config : Config} {server : Server}

theorem nothing (earlier began : Nat) : Paced config server earlier began [] :=
  ⟨Nat.zero_le _, .nil, by simp, by simp⟩

theorem of_resume {watch : Watch} {began : Nat} {session : Session}
    (prepared : prepare watch.config .lookUp (some watch.job.token) = .ok watch.url)
    (polls : 0 < watch.config.pollInterval) (stands : watch.Stands began 0 session) :
    Paced watch.config watch.server watch.earlier began
      (requestsOf (watch.resume began 0 session).events) := by
  obtain ⟨count, sent, started, goes⟩ := Watch.exists_lookups prepared polls stands
  rw [sent]
  constructor
  · rw [List.length_map, List.length_range]
    exact Watch.count_le polls started
  · rw [List.pairwise_map]
    refine List.pairwise_lt_range.imp_of_mem ?_
    intro first second _ listed before
    have apart := Watch.start_add_le before (started second (List.mem_range.mp listed))
    exact Nat.add_assoc began _ _ ▸ Nat.add_le_add_left apart began
  · intro lookup listed
    obtain ⟨index, less, rfl⟩ := List.mem_map.mp listed
    exact ⟨Nat.le_add_right _ _,
      Nat.add_lt_add_left (started index (List.mem_range.mp less)) began⟩
  · intro index lookup found overdue
    rw [List.getElem?_map, Option.map_eq_some_iff] at found
    obtain ⟨same, found, rfl⟩ := found
    obtain ⟨less, rfl⟩ := List.getElem?_eq_some_iff.mp found
    rw [List.length_range] at less
    rw [List.getElem_range] at overdue
    have gone : watch.verdict index = .abandoned := by
      apply Watch.abandoned_of_overdue
      rw [← overdue, Watch.lookup, Nat.add_sub_add_left]
      rfl
    rw [List.length_map, List.length_range]
    apply Nat.le_antisymm less
    apply Nat.le_of_not_lt
    intro more
    obtain ⟨returns, decided, -⟩ := goes index more
    cases gone.symm.trans decided

theorem of_waitForReturns (server : Server) (job : Job) (session : Session)
    (polls : 0 < config.pollInterval) :
    Paced config server session.lookups session.now
      (requestsOf (waitForReturns config server job session).events) := by
  cases prepared : prepare config .lookUp (some job.token) with
  | error error =>
      rw [waitForReturns_of_unprepared server session prepared]
      exact nothing _ _
  | ok url => exact of_resume prepared polls (Watch.stands_zero config server job url session)

end Paced

/-! ## Abandoned lookups -/

/-- The event says that a lookup of some job was abandoned. -/
def IsAbandonment (event : Event) : Prop :=
  ∃ job : Job, event = .logged job.abandonedEntry

/-- No lookup of any job was abandoned. -/
def NoneAbandoned (events : List Event) : Prop :=
  ∀ event ∈ events, ¬ IsAbandonment event

/-- When a lookup was abandoned, nothing more is sent or abandoned. -/
def AbandonsLast (events : List Event) : Prop :=
  ∀ (before : List Event) (event : Event) (after : List Event),
    events = before ++ event :: after → IsAbandonment event →
      requestsOf after = [] ∧ NoneAbandoned after

section Abandoned

variable {first second events : List Event}

/-! No other event of a query says so. -/

theorem not_isAbandonment_sent (request : Http.Request) : ¬ IsAbandonment (.sent request) := by
  rintro ⟨job, same⟩
  cases same

theorem not_isAbandonment_reply (reply : String) :
    ¬ IsAbandonment (.logged ⟨.trace, logTarget, reply⟩) := by
  simp [IsAbandonment, Job.abandonedEntry]

theorem not_isAbandonment_loginEntry (config : Config) :
    ¬ IsAbandonment (.logged (loginEntry config)) := by
  simp [IsAbandonment, loginEntry, Job.abandonedEntry, String.ext_iff]

theorem not_isAbandonment_publishedEntry (id : String) (minions : List String) :
    ¬ IsAbandonment (.logged (publishedEntry id minions)) := by
  simp [IsAbandonment, publishedEntry, Job.abandonedEntry, String.ext_iff]

theorem not_isAbandonment_noMinionsEntry (query : Query) :
    ¬ IsAbandonment (.logged (noMinionsEntry query)) := by
  simp [IsAbandonment, noMinionsEntry, Job.abandonedEntry, String.ext_iff]

theorem not_isAbandonment_noJobEntry (reply : String) :
    ¬ IsAbandonment (.logged (noJobEntry reply)) := by
  simp [IsAbandonment, noJobEntry, Job.abandonedEntry, String.ext_iff]

theorem not_isAbandonment_timedOutEntry (job : Job) (missing : List String) :
    ¬ IsAbandonment (.logged (job.timedOutEntry missing)) := by
  simp [IsAbandonment, Job.timedOutEntry, Job.abandonedEntry, String.ext_iff]

theorem not_isAbandonment_waitingEntry (job : Job) (missing : List String) :
    ¬ IsAbandonment (.logged (job.waitingEntry missing)) := by
  simp [IsAbandonment, Job.waitingEntry, Job.abandonedEntry, String.ext_iff]

theorem noneAbandoned_nil : NoneAbandoned [] := by
  simp [NoneAbandoned]

theorem noneAbandoned_singleton {event : Event} (other : ¬ IsAbandonment event) :
    NoneAbandoned [event] :=
  List.forall_mem_singleton.mpr other

namespace NoneAbandoned

theorem append (quiet : NoneAbandoned first) (later : NoneAbandoned second) :
    NoneAbandoned (first ++ second) :=
  List.forall_mem_append.mpr ⟨quiet, later⟩

theorem abandonsLast (quiet : NoneAbandoned events) : AbandonsLast events := by
  rintro before event after rfl abandons
  exact absurd abandons (quiet event (List.mem_append_right _ List.mem_cons_self))

end NoneAbandoned

theorem AbandonsLast.after (later : AbandonsLast second) (quiet : NoneAbandoned first) :
    AbandonsLast (first ++ second) := by
  intro before event after same abandons
  rcases List.append_eq_append_iff.mp same with ⟨middle, -, rest⟩ | ⟨middle, parts, rest⟩
  · exact later middle event after rest abandons
  · cases middle with
    | nil => exact later [] event after rest.symm abandons
    | cons other middle =>
        obtain ⟨rfl, -⟩ := List.cons.inj rest
        rw [parts] at quiet
        exact absurd abandons (quiet event (List.mem_append_right _ List.mem_cons_self))

/-- An abandoned lookup may stand in front of what is silent about others. -/
theorem NoneAbandoned.abandonsLast_cons (quiet : NoneAbandoned events)
    (silent : requestsOf events = []) (first : Event) : AbandonsLast (first :: events) := by
  intro before event after same abandons
  cases before with
  | nil =>
      obtain ⟨-, rfl⟩ := List.cons.inj same
      exact ⟨silent, quiet⟩
  | cons other before =>
      obtain ⟨-, rfl⟩ := List.cons.inj same
      exact absurd abandons (quiet event (List.mem_append_right _ List.mem_cons_self))

end Abandoned

section Traces

variable {config : Config} {server : Server} {session : Session} {task : Task} {limit : Nat}

theorem noneAbandoned_answerEvents (answer : Answer) :
    NoneAbandoned (answerEvents task answer) := by
  rw [answerEvents]
  split
  · exact noneAbandoned_nil
  · exact noneAbandoned_singleton (not_isAbandonment_reply _)

theorem noneAbandoned_send {request : Http.Request} :
    NoneAbandoned (send server task request limit session).events := by
  rw [send]
  split
  · exact noneAbandoned_nil
  · exact noneAbandoned_singleton (not_isAbandonment_sent request)

theorem noneAbandoned_andThen {σ α β ε : Type} {step : Step σ (Except ε α)}
    {next : α → σ → Step σ (Except ε β)} (quiet : NoneAbandoned step.events)
    (later : ∀ value state, NoneAbandoned (next value state).events) :
    NoneAbandoned (step.andThen next).events := by
  cases done : step.result with
  | error error =>
      rw [Step.andThen_error done]
      exact quiet
  | ok value =>
      rw [Step.andThen_ok done, Step.after_events]
      exact quiet.append (later value step.state)

theorem noneAbandoned_exchange {α : Type} {shape : Json.Shape α} {token : Option String}
    {body : Json} :
    NoneAbandoned (exchange config server task shape token body limit session).events := by
  rw [exchange]
  refine noneAbandoned_andThen ?_ fun answer state => noneAbandoned_answerEvents answer
  rw [post]
  split
  · exact noneAbandoned_nil
  · exact noneAbandoned_send

theorem noneAbandoned_authenticate :
    NoneAbandoned (authenticate config server session).events := by
  rw [authenticate]
  split
  · exact noneAbandoned_nil
  · rw [logIn_eq, Step.after_events]
    refine (noneAbandoned_singleton (not_isAbandonment_loginEntry config)).append ?_
    refine noneAbandoned_andThen noneAbandoned_exchange ?_
    intro logins state
    rw [keepToken]
    split <;> exact noneAbandoned_nil

theorem noneAbandoned_publish {token : String} {query : Query} :
    NoneAbandoned (publish config server token query session).events := by
  rw [publish_eq, Step.andThen_pure_events]
  exact noneAbandoned_exchange

variable {job : Job} {deadline : Nat}

theorem noneAbandoned_lookUp :
    NoneAbandoned (lookUp config server job deadline session).events := by
  rw [lookUp]
  cases prepare config .lookUp (some job.token) with
  | error error => exact noneAbandoned_nil
  | ok url =>
      dsimp only
      split
      · exact noneAbandoned_send
      · split
        · exact noneAbandoned_send
        · exact noneAbandoned_send.append (noneAbandoned_answerEvents _)

theorem send_now_eq_of_overdue {request : Http.Request}
    (overdue : (send server task request limit session).result = .overdue) :
    (send server task request limit session).state.now = session.now + limit := by
  rw [send] at overdue ⊢
  by_cases none : limit = 0
  · rw [if_pos none, none]
    rfl
  · rw [if_neg none] at overdue ⊢
    rw [now_countUp, Reply.span_eq_of_overdue overdue]

/-- A lookup is abandoned at the deadline and not before. -/
theorem le_now_of_abandoned
    (gone : (lookUp config server job deadline session).result = .ok none) :
    deadline ≤ (lookUp config server job deadline session).state.now := by
  rw [lookUp] at gone ⊢
  cases prepared : prepare config .lookUp (some job.token) with
  | error error =>
      rw [prepared] at gone
      cases gone
  | ok url =>
      simp only [prepared] at gone ⊢
      split at gone
      · rename_i overdue
        rw [if_pos overdue, send_now_eq_of_overdue overdue.1,
          Nat.min_eq_right (Nat.le_of_lt overdue.2)]
        omega
      · split at gone
        · cases gone
        · rename_i answer _
          cases judged : judge .lookUp lookupShape answer <;> simp [judged, Except.map] at gone

/-- A turn with nothing abandoned, and what it logs at its end. -/
theorem noneAbandoned_turn {found : Option (Members Json)} {last : List Event}
    (present : found ≠ none) (quiet : NoneAbandoned last) :
    NoneAbandoned
      (turnEvents job (lookUp config server job deadline session) found ++ last) := by
  cases found with
  | none => exact absurd rfl present
  | some returns =>
      exact (noneAbandoned_lookUp.append noneAbandoned_nil).append quiet

/-- A wait may end with a turn in which the lookup was abandoned. -/
theorem turn_abandonsLast {found : Option (Members Json)} {last : List Event}
    (silent : requestsOf last = []) (quiet : NoneAbandoned last) :
    AbandonsLast
      (turnEvents job (lookUp config server job deadline session) found ++ last) := by
  rw [turnEvents, List.append_assoc]
  cases found with
  | none => exact (quiet.abandonsLast_cons silent _).after noneAbandoned_lookUp
  | some returns => exact (noneAbandoned_lookUp.append quiet).abandonsLast

theorem waitFrom_abandonsLast (returns : Members Json) :
    AbandonsLast (waitFrom config server job deadline returns session).events := by
  induction returns, session using waitFrom.induct config server job deadline with
  | case1 returns session look error failed =>
      rw [waitFrom_of_failed failed]
      exact noneAbandoned_lookUp.abandonsLast
  | case2 returns session look found answered current missing complete =>
      rw [waitFrom_of_found answered, if_pos complete]
      exact List.append_nil (turnEvents job look found) ▸ turn_abandonsLast rfl noneAbandoned_nil
  | case3 returns session look found answered current missing incomplete ended =>
      rw [waitFrom_of_found answered, if_neg incomplete, if_pos ended]
      exact turn_abandonsLast rfl
        (noneAbandoned_singleton (not_isAbandonment_timedOutEntry job missing))
  | case4 returns session look found answered current missing incomplete early ih =>
      rw [waitFrom_of_found answered, if_neg incomplete, if_neg early, Step.after_events]
      refine ih.after (noneAbandoned_turn ?_
        (noneAbandoned_singleton (not_isAbandonment_waitingEntry job missing)))
      rintro rfl
      exact early (le_now_of_abandoned answered)

theorem collect_abandonsLast {token : String} {query : Query} {publication : Publication} :
    AbandonsLast (collect config server token query publication session).events := by
  cases publication with
  | job id minions =>
      rw [collect, Step.after_events, Step.andThen_pure_events]
      exact (waitFrom_abandonsLast []).after
        (noneAbandoned_singleton (not_isAbandonment_publishedEntry id minions))
  | noMinions =>
      exact (noneAbandoned_singleton (not_isAbandonment_noMinionsEntry query)).abandonsLast
  | incomplete reply =>
      exact (noneAbandoned_singleton (not_isAbandonment_noJobEntry reply)).abandonsLast

theorem ask_abandonsLast {query : Query} :
    AbandonsLast (ask config server query session).events := by
  rcases ask_stages config server query session with
    ⟨error, -, step⟩ | ⟨token, error, -, -, step⟩ | ⟨token, publication, -, -, step⟩
  · rw [step]
    exact noneAbandoned_authenticate.abandonsLast
  · rw [step]
    exact (noneAbandoned_authenticate.append noneAbandoned_publish).abandonsLast
  · rw [step]
    exact (collect_abandonsLast.after noneAbandoned_publish).after noneAbandoned_authenticate

end Traces

/-! ## The lookups of a query -/

/-- The lookups among the requests of a trace. -/
def lookupsOf (events : List Event) : List Http.Request :=
  (requestsOf events).filter fun request => taskOf? request = some .lookUp

/-- The reply to a publication of a trace, after `count` others, came at this time. -/
def RepliedAt (server : Server) (count : Nat) (events : List Event) (time : Nat) : Prop :=
  ∃ request ∈ requestsOf events, taskOf? request = some .publish ∧
    ∃ delay status body, server.publish.answer count = .answer delay status body ∧
      time = request.sentAt + delay

/-- The reply is on record wherever the trace is part of a longer one. -/
theorem RepliedAt.congr {server : Server} {count time : Nat} {events others : List Event}
    (replied : RepliedAt server count events time)
    (within : ∀ request ∈ requestsOf events, request ∈ requestsOf others) :
    RepliedAt server count others time := by
  obtain ⟨request, listed, rest⟩ := replied
  exact ⟨request, within request listed, rest⟩

theorem lookupsOf_append (first second : List Event) :
    lookupsOf (first ++ second) = lookupsOf first ++ lookupsOf second := by
  rw [lookupsOf, requestsOf_append, List.filter_append]
  rfl

theorem lookupsOf_eq_nil {events : List Event} {task : Task} (differs : task ≠ .lookUp)
    (others : ∀ request ∈ requestsOf events, taskOf? request = some task) :
    lookupsOf events = [] := by
  rw [lookupsOf, List.filter_eq_nil_iff]
  intro request listed
  rw [others request listed]
  simpa using differs

section Queries

variable (config : Config) (server : Server) (query : Query) (session : Session)

theorem lookupsOf_authenticate : lookupsOf (authenticate config server session).events = [] := by
  obtain ⟨-, -, -, -, -, -, posts⟩ := authenticate_frame config server session
  refine lookupsOf_eq_nil (by decide : Task.logIn ≠ .lookUp) ?_
  intro request listed
  exact taskOf?_login (posts request listed)

theorem lookupsOf_publish (token : String) :
    lookupsOf (publish config server token query session).events = [] := by
  by_cases sendable : Sendable config .publish (some token) config.timeout
  · obtain ⟨-, request, sent, posts⟩ := publish_of_sendable server session query sendable
    refine lookupsOf_eq_nil (by decide : Task.publish ≠ .lookUp) ?_
    intro member listed
    rw [sent, List.mem_singleton] at listed
    exact listed ▸ taskOf?_publish posts
  · obtain ⟨error, failed⟩ := publish_of_not_sendable server session query sendable
    rw [failed]
    rfl

theorem lookupsOf_collect (token : String) (publication : Publication) :
    let rest := collect config server token query publication session
    lookupsOf rest.events = requestsOf rest.events := by
  obtain ⟨-, -, -, -, posts⟩ := collect_frame config server token query publication session
  dsimp only
  rw [lookupsOf, List.filter_eq_self]
  intro request listed
  obtain ⟨id, minions, -, asked⟩ := posts request listed
  exact decide_eq_true (taskOf?_lookup asked)

variable {query session} in
theorem repliedAt_publish {token : String} {publication : Publication}
    (answered : (publish config server token query session).result = .ok publication) :
    let published := publish config server token query session
    RepliedAt server session.publishes published.events published.state.now := by
  rw [publish_eq, Step.andThen_result_ok_iff] at answered
  obtain ⟨values, exchanged, -⟩ := answered
  obtain ⟨url, delay, status, body, reply, sent, clock⟩ := exchange_arrives exchanged
  have posts := posts_request url (some token) (publishBody query) session
  refine ⟨_, ?_, taskOf?_publish posts, delay, status, body, reply, ?_⟩
  · rw [publish_eq, Step.andThen_pure_events, sent]
    exact List.mem_singleton_self _
  · rw [publish_eq, Step.andThen_ok exchanged]
    exact clock

/-- The lookups of what is collected are those of a wait that begins then. -/
theorem collect_paced (polls : 0 < config.pollInterval) (token : String)
    (publication : Publication) :
    Paced config server session.lookups session.now
      (requestsOf (collect config server token query publication session).events) := by
  cases publication with
  | job id minions =>
      rw [(collect_job config server token query session id minions).2.2]
      exact Paced.of_waitForReturns server ⟨token, id, minions⟩ session polls
  | noMinions => exact Paced.nothing _ _
  | incomplete reply => exact Paced.nothing _ _

/-- The lookups of a query keep the pace of a wait that begins with the reply. -/
theorem ask_paced (polls : 0 < config.pollInterval) :
    let step := ask config server query session
    ∃ began, (lookupsOf step.events ≠ [] →
        RepliedAt server session.publishes step.events began) ∧
      Paced config server session.lookups began (lookupsOf step.events) := by
  have silent := lookupsOf_authenticate config server session
  obtain ⟨-, publishes, lookups, -⟩ := authenticate_frame config server session
  rcases ask_stages config server query session with
    ⟨error, -, step⟩ | ⟨token, error, -, -, step⟩ | ⟨token, publication, -, answered, step⟩
  · dsimp only
    rw [step, silent]
    exact ⟨0, by simp, Paced.nothing _ _⟩
  · dsimp only at step ⊢
    rw [step, lookupsOf_append, silent, lookupsOf_publish]
    exact ⟨0, by simp, Paced.nothing _ _⟩
  · have replied := repliedAt_publish config server answered
    dsimp only at step ⊢
    rw [step, lookupsOf_append, lookupsOf_append, silent, lookupsOf_publish, lookupsOf_collect,
      List.nil_append, List.nil_append]
    have kept := (publish_frame config server query (authenticate config server session).state
      token).2
    have paced := collect_paced config server query (publish config server token query
      (authenticate config server session).state).state polls token publication
    rw [kept, lookups] at paced
    rw [publishes] at replied
    refine ⟨_, fun _ => replied.congr ?_, paced⟩
    intro request listed
    rw [requestsOf_append, requestsOf_append]
    exact List.mem_append_right _ (List.mem_append_left _ listed)

/--
A query takes its time and no more. The loop of a wait ends by itself, after one turn for
each poll interval in the timeout and one at the deadline. The lookups keep their pace
from the reply to the publication on, at most one of them is abandoned, after which there
is no other, and none fails for its own limit. Login, publication and wait take a timeout
each at most, and so does each further attempt of an extraction.
-/
theorem ask_keeps_time (polls : 0 < config.pollInterval) :
    let step := ask config server query session
    let lookups := lookupsOf step.events
    (∀ job session,
      waitWithin config server job (session.now + config.timeout)
          (config.timeout ⌈/⌉ config.pollInterval + 1) [] session =
        some (waitForReturns config server job session)) ∧
    (∃ began, (lookups ≠ [] → RepliedAt server session.publishes step.events began) ∧
      Paced config server session.lookups began lookups) ∧
    AbandonsLast step.events ∧
    (∀ url, step.result ≠ .error (.request .lookUp (.timedOut url))) ∧
    step.state.now ≤ session.now + 3 * config.timeout ∧
    (∀ session,
      (authenticate config server session).state.now ≤ session.now + config.timeout) ∧
    (∀ token session,
      (publish config server token query session).state.now ≤ session.now + config.timeout) ∧
    (∀ job session,
      (waitForReturns config server job session).state.now ≤ session.now + config.timeout) ∧
    ∀ most, (extract (client config server) query most session).state.now ≤
      session.now + (most + 2) * config.timeout := by
  refine ⟨fun job session => waitWithin_eq_waitForReturns polls session,
    ask_paced config server query session polls, ask_abandonsLast,
    fun url => ask_ne_timedOut polls, ?_, ?_, ?_, ?_, extract_now_le config server query session⟩
  · have taken := (ask_now_le config server query session).1
    have login := loginTime_le config session
    omega
  · intro session
    have taken := authenticate_now_le config server session
    have login := loginTime_le config session
    exact Nat.le_trans taken (Nat.add_le_add_left login _)
  · intro token session
    exact publish_now_le config server query session token
  · intro job session
    exact waitForReturns_now_le config server job session

end Queries

namespace Silence

/-- Where the second lookup is not answered, the query waits for the deadline and no longer. -/
theorem ask_gives_up_in_time :
    0 < Deadline.config.pollInterval ∧
      let step := ask Deadline.config server Retry.query session
      step.state.now ≤ 300 ∧ (lookupsOf step.events).length ≤ 4 ∧
        (extract (client Deadline.config server) Retry.query 2 session).state.now ≤ 400 := by
  have polls : 0 < Deadline.config.pollInterval := by decide
  obtain ⟨-, ⟨began, -, paced⟩, -, -, asked, -, -, -, extracted⟩ :=
    ask_keeps_time Deadline.config server Retry.query session polls
  exact ⟨polls, asked, paced.length_le, extracted 2⟩

end Silence

end PillarLookup.SaltApi
