import Mathlib
import PillarLookup.Proofs.SaltApi.Watch

/-!
# A wait follows its schedule

One turn of the loop is one lookup of the schedule: the session in which a lookup
is made stands at the start of that lookup and has taken the replies before it.
From this the result of a whole wait, and the moment at which it ends, are read off
the first lookup of the schedule that fails or covers every minion.
-/

namespace PillarLookup.SaltApi

/-! ## One turn of the loop -/

section Turn

variable {config : Config} {server : Server} {job : Job} {deadline : Nat}
  {returns : Members Json} {session : Session}

theorem waitFrom_of_failed {error : ApiError}
    (failed : (lookUp config server job deadline session).result = .error error) :
    let look := lookUp config server job deadline session
    waitFrom config server job deadline returns session =
      ⟨.error error, look.state, look.events⟩ := by
  rw [waitFrom]
  dsimp only
  split
  · rename_i other same
    rw [failed] at same
    cases same
    rfl
  · rename_i found same
    rw [failed] at same
    cases same

/-- The events of a turn whose lookup did not fail. -/
def turnEvents (job : Job) (look : Step Session (Except ApiError (Option (Members Json))))
    (found : Option (Members Json)) : List Event :=
  look.events ++ if found.isNone then [.logged job.abandonedEntry] else []

theorem requestsOf_turnEvents (look : Step Session (Except ApiError (Option (Members Json))))
    (found : Option (Members Json)) :
    requestsOf (turnEvents job look found) = requestsOf look.events := by
  rw [turnEvents]
  rw [requestsOf_append]
  split <;> simp

/-- A turn whose lookup does not fail ends the wait or goes on with what was found. -/
theorem waitFrom_of_found {found : Option (Members Json)}
    (answered : (lookUp config server job deadline session).result = .ok found) :
    let look := lookUp config server job deadline session
    let current := found.getD returns
    waitFrom config server job deadline returns session =
      if job.missing current = [] then
        ⟨.ok ⟨current, []⟩, look.state, turnEvents job look found⟩
      else if deadline ≤ look.state.now then
        ⟨.ok ⟨current, job.missing current⟩, look.state,
          turnEvents job look found ++ [.logged (job.timedOutEntry (job.missing current))]⟩
      else
        (waitFrom config server job deadline current
          { look.state with now := wakeTime config server deadline session look.state }).after
          (turnEvents job look found ++ [.logged (job.waitingEntry (job.missing current))]) := by
  rw [waitFrom]
  dsimp only
  split
  · rename_i error same
    rw [answered] at same
    cases same
  · rename_i other same
    rw [answered] at same
    cases same
    rfl

end Turn

theorem missing_eq_nil_iff {job : Job} {returns : Members Json} :
    job.missing returns = [] ↔ ∀ minion ∈ job.minions, returns.contains minion = true := by
  simp [Job.missing, List.filter_eq_nil_iff]

/-! ## The lookups of the schedule -/

/-- What the loop makes of a lookup. -/
def Verdict.found : Verdict → Except ApiError (Option (Members Json))
  | .failed error => .error error
  | .answered returns => .ok (some returns)
  | .abandoned => .ok none

namespace Watch

/-- What a wait holds when a lookup starts. -/
def kept (watch : Watch) : Nat → Members Json
  | 0 => []
  | index + 1 =>
      match watch.verdict index with
      | .answered returns => returns
      | _ => watch.kept index

/-- The request of a lookup, for a wait that began at a given time. -/
def requests (watch : Watch) (began index : Nat) : List Http.Request :=
  if watch.start index < watch.config.timeout then
    [⟨watch.url.target, some watch.job.token, (lookupBody watch.job.id).text,
      began + watch.start index⟩]
  else []

/-- A session in which a lookup of the schedule is made. -/
structure Stands (watch : Watch) (began index : Nat) (session : Session) : Prop where
  now_eq : session.now = began + watch.start index
  lookups_eq : watch.start index < watch.config.timeout →
    session.lookups = watch.earlier + index

/-- A wait begins at the first lookup of its schedule. -/
theorem stands_zero (config : Config) (server : Server) (job : Job) (url : Url)
    (session : Session) :
    Stands ⟨config, server, job, url, session.lookups⟩ session.now 0 session :=
  ⟨rfl, fun _ => rfl⟩

section Schedule

variable {watch : Watch} {began index : Nat} {session : Session}

/-- A lookup that starts before the deadline has all the time up to it. -/
theorem lookupLimit_min (watch : Watch) (index : Nat)
    (polls : 0 < watch.config.pollInterval) :
    min (lookupLimit watch.config) (watch.config.timeout - watch.start index) =
        watch.config.timeout - watch.start index ∧
      watch.config.timeout - watch.start index < lookupLimit watch.config := by
  rw [lookupLimit]
  omega

/-- A lookup comes to what the schedule says, at the time that it says. -/
theorem lookUp_follows
    (prepared : prepare watch.config .lookUp (some watch.job.token) = .ok watch.url)
    (polls : 0 < watch.config.pollInterval) (stands : watch.Stands began index session) :
    let look := lookUp watch.config watch.server watch.job (began + watch.config.timeout) session
    look.result = (watch.verdict index).found ∧
      look.state.now = began + watch.finish index ∧
      (watch.start index < watch.config.timeout →
        look.state.lookups = watch.earlier + (index + 1)) ∧
      requestsOf look.events = watch.requests began index := by
  obtain ⟨whole, short⟩ := watch.lookupLimit_min index polls
  have left : began + watch.config.timeout - session.now =
      watch.config.timeout - watch.start index := by
    rw [stands.now_eq]
    omega
  have started := watch.start_le_timeout index
  rw [lookUp]
  simp only [prepared, left, whole]
  by_cases early : watch.start index < watch.config.timeout
  · have time : 0 < watch.config.timeout - watch.start index := Nat.sub_pos_of_lt early
    have next : (watch.server.script .lookUp).answer (session.sent .lookUp) =
        watch.reply index := by
      rw [reply]
      rw [← stands.lookups_eq early]
      rfl
    have count : session.lookups + 1 = watch.earlier + (index + 1) := by
      rw [stands.lookups_eq early, Nat.add_assoc]
    have clock : session.now + (watch.reply index).span
        (watch.config.timeout - watch.start index) = began + watch.finish index := by
      rw [stands.now_eq]
      rw [finish]
      omega
    rw [send_of_pos _ _ _ time]
    unfold verdict requests Session.awaited
    rw [if_neg (Nat.not_le.mpr early), if_pos early, next]
    simp only [Session.countUp, clock, count]
    cases (watch.reply index).fate (watch.config.timeout - watch.start index) with
    | overdue =>
        simp [short, Verdict.found, request, stands.now_eq]
    | dropped =>
        simp [Fate.answer, Verdict.found, request, stands.now_eq]
    | arrived answer =>
        simp only [reduceCtorEq, false_and, if_false, Fate.answer, requestsOf_append,
          requestsOf_answerEvents, List.append_nil, request, stands.now_eq, requestsOf_sent,
          requestsOf_nil, implies_true, and_true]
        cases judge .lookUp lookupShape answer <;> rfl
  · have late : watch.config.timeout ≤ watch.start index := Nat.le_of_not_lt early
    have none : watch.config.timeout - watch.start index = 0 := Nat.sub_eq_zero_of_le late
    have clock : session.now = began + watch.finish index := by
      have ended := watch.finish_le_timeout index
      have later := watch.start_le_finish index
      rw [stands.now_eq]
      omega
    unfold verdict requests send
    rw [if_pos late, if_neg early]
    rw [none] at short
    simp [none, short, Step.pure, Verdict.found, early, clock]

/-- The next lookup starts where the schedule has it. -/
theorem stands_succ
    (prepared : prepare watch.config .lookUp (some watch.job.token) = .ok watch.url)
    (polls : 0 < watch.config.pollInterval) (stands : watch.Stands began index session)
    (early : watch.finish index < watch.config.timeout) :
    let deadline := began + watch.config.timeout
    let after := (lookUp watch.config watch.server watch.job deadline session).state
    watch.Stands began (index + 1)
      { after with now := wakeTime watch.config watch.server deadline session after } := by
  obtain ⟨-, clock, count, -⟩ := lookUp_follows prepared polls stands
  have before := watch.start_le_finish index
  refine ⟨?_, fun _ => count (Nat.lt_of_le_of_lt before early)⟩
  -- A positive poll interval moves the clock on, so that the wait never stands still.
  have moves : ¬ (min (began + watch.config.timeout)
      (began + watch.finish index + watch.config.pollInterval) = session.now ∧
      unseen watch.server session = 0) := by
    rw [stands.now_eq]
    omega
  dsimp only
  rw [start_succ, wakeTime, clock, if_neg moves]
  omega

/-! ## The course of a wait -/

/-- The wait has to go on after a lookup: it was answered, and some minion is missing. -/
def GoesOn (watch : Watch) (index : Nat) : Prop :=
  ∃ returns, watch.verdict index = .answered returns ∧ watch.job.missing returns ≠ []

/-- What a wait that ends at a lookup returns. -/
def outcome (watch : Watch) (index : Nat) : Except ApiError Collected :=
  match watch.verdict index with
  | .failed error => .error error
  | .answered returns => .ok ⟨returns, watch.job.missing returns⟩
  | .abandoned => .ok ⟨watch.kept index, watch.job.missing (watch.kept index)⟩

/-- The wait at a lookup, as the loop runs it from there. -/
def resume (watch : Watch) (began index : Nat) (session : Session) :
    Step Session (Except ApiError Collected) :=
  waitFrom watch.config watch.server watch.job (began + watch.config.timeout) (watch.kept index)
    session

theorem missing_of_not_goesOn (ends : ¬ watch.GoesOn index) {returns : Members Json}
    (decided : watch.verdict index = .answered returns) : watch.job.missing returns = [] := by
  by_cases complete : watch.job.missing returns = []
  · exact complete
  · exact absurd ⟨returns, decided, complete⟩ ends

theorem resume_of_not_goesOn
    (prepared : prepare watch.config .lookUp (some watch.job.token) = .ok watch.url)
    (polls : 0 < watch.config.pollInterval) (stands : watch.Stands began index session)
    (ends : ¬ watch.GoesOn index) :
    let step := watch.resume began index session
    step.result = watch.outcome index ∧ step.state.now = began + watch.finish index ∧
      requestsOf step.events = watch.requests began index := by
  obtain ⟨result, clock, -, sent⟩ := lookUp_follows prepared polls stands
  unfold resume outcome
  cases decided : watch.verdict index with
  | failed error =>
      rw [decided] at result
      rw [waitFrom_of_failed result]
      exact ⟨rfl, clock, sent⟩
  | answered returns =>
      have covered := missing_of_not_goesOn ends decided
      rw [decided] at result
      rw [waitFrom_of_found result, Option.getD_some, if_pos covered]
      dsimp only
      rw [covered]
      exact ⟨rfl, clock, (requestsOf_turnEvents _ _).trans sent⟩
  | abandoned =>
      have late : began + watch.config.timeout ≤ (lookUp watch.config watch.server watch.job
          (began + watch.config.timeout) session).state.now :=
        Nat.le_of_eq (by rw [clock, finish_of_abandoned decided])
      rw [decided] at result
      rw [waitFrom_of_found result, Option.getD_none]
      by_cases complete : watch.job.missing (watch.kept index) = []
      · rw [if_pos complete]
        dsimp only
        rw [complete]
        exact ⟨rfl, clock, (requestsOf_turnEvents _ _).trans sent⟩
      · rw [if_neg complete, if_pos late]
        refine ⟨rfl, clock, ?_⟩
        rw [requestsOf_append, requestsOf_turnEvents, sent]
        exact List.append_nil _

theorem resume_of_goesOn
    (prepared : prepare watch.config .lookUp (some watch.job.token) = .ok watch.url)
    (polls : 0 < watch.config.pollInterval) (stands : watch.Stands began index session)
    (goes : watch.GoesOn index) :
    ∃ next, watch.Stands began (index + 1) next ∧
      (watch.resume began index session).result = (watch.resume began (index + 1) next).result ∧
      (watch.resume began index session).state = (watch.resume began (index + 1) next).state ∧
      requestsOf (watch.resume began index session).events =
        watch.requests began index ++
          requestsOf (watch.resume began (index + 1) next).events := by
  obtain ⟨returns, decided, incomplete⟩ := goes
  obtain ⟨result, clock, -, sent⟩ := lookUp_follows prepared polls stands
  have early : watch.finish index < watch.config.timeout := by
    rcases watch.abandoned_or_finish_lt index with gone | times
    · rw [decided] at gone
      cases gone
    · exact times.2
  have held : watch.kept (index + 1) = returns := by
    rw [kept]
    rw [decided]
  have before : ¬ began + watch.config.timeout ≤ (lookUp watch.config watch.server watch.job
      (began + watch.config.timeout) session).state.now := by
    rw [clock]
    omega
  rw [decided] at result
  refine ⟨_, stands_succ prepared polls stands early, ?_⟩
  unfold resume
  rw [waitFrom_of_found result, Option.getD_some, if_neg incomplete, if_neg before, held]
  refine ⟨rfl, rfl, ?_⟩
  simp only [Step.after_events, requestsOf_append, requestsOf_turnEvents, sent, requestsOf_logged,
    requestsOf_nil, List.append_nil]

/-- As long as the wait goes on, it stands at the next lookup of the schedule. -/
theorem resume_zero
    (prepared : prepare watch.config .lookUp (some watch.job.token) = .ok watch.url)
    (polls : 0 < watch.config.pollInterval) (stands : watch.Stands began 0 session)
    (goes : ∀ before < index, watch.GoesOn before) :
    ∃ there, watch.Stands began index there ∧
      (watch.resume began 0 session).result = (watch.resume began index there).result ∧
      (watch.resume began 0 session).state = (watch.resume began index there).state ∧
      requestsOf (watch.resume began 0 session).events =
        (List.range index).flatMap (watch.requests began) ++
          requestsOf (watch.resume began index there).events := by
  induction index with
  | zero => exact ⟨session, stands, rfl, rfl, rfl⟩
  | succ index ih =>
      obtain ⟨there, standing, result, state, sent⟩ :=
        ih fun before less => goes before (Nat.lt_succ_of_lt less)
      obtain ⟨next, standingNext, resultNext, stateNext, sentNext⟩ :=
        resume_of_goesOn prepared polls standing (goes index (Nat.lt_succ_self index))
      refine ⟨next, standingNext, result.trans resultNext, state.trans stateNext, ?_⟩
      rw [sent, sentNext, List.range_succ, List.flatMap_append, List.flatMap_singleton,
        List.append_assoc]

/-- There is a first lookup after which the wait need not go on. -/
theorem exists_first_end (polls : 0 < watch.config.pollInterval) :
    ∃ index, ¬ watch.GoesOn index ∧ ∀ before < index, watch.GoesOn before := by
  classical
  have ended : ∃ index, ¬ watch.GoesOn index := by
    refine ⟨watch.config.timeout, ?_⟩
    rintro ⟨returns, decided, -⟩
    rw [abandoned_timeout polls] at decided
    cases decided
  refine ⟨Nat.find ended, Nat.find_spec ended, ?_⟩
  intro before less
  exact Classical.not_not.mp (Nat.find_min ended less)

/-- A wait ends at the first lookup after which it need not go on, and says what that came to. -/
theorem resume_zero_eq
    (prepared : prepare watch.config .lookUp (some watch.job.token) = .ok watch.url)
    (polls : 0 < watch.config.pollInterval) (stands : watch.Stands began 0 session)
    (goes : ∀ before < index, watch.GoesOn before) (ends : ¬ watch.GoesOn index) :
    let step := watch.resume began 0 session
    step.result = watch.outcome index ∧ step.state.now = began + watch.finish index ∧
      requestsOf step.events = (List.range (index + 1)).flatMap (watch.requests began) := by
  obtain ⟨there, standing, result, state, sent⟩ := resume_zero prepared polls stands goes
  obtain ⟨value, clock, last⟩ := resume_of_not_goesOn prepared polls standing ends
  refine ⟨result.trans value, ?_, ?_⟩
  · rw [state, clock]
  · rw [sent, last, List.range_succ, List.flatMap_append, List.flatMap_singleton]

/-! ## The three ways to end -/

theorem continues_iff (watch : Watch) (index : Nat) :
    watch.Continues index ↔ watch.verdict index = .abandoned ∨ watch.GoesOn index := by
  unfold Continues GoesOn
  cases watch.verdict index with
  | failed error => simp
  | abandoned => simp
  | answered returns =>
      simp only [reduceCtorEq, false_or, Verdict.answered.injEq, exists_eq_left', ne_eq,
        missing_eq_nil_iff, not_forall, Bool.not_eq_true, exists_prop]

/-- Lookups before one that comes to something were answered themselves. -/
theorem goesOn_of_reaches (reaches : watch.Reaches index)
    (decided : watch.verdict index ≠ .abandoned) : ∀ before < index, watch.GoesOn before := by
  intro before less
  rcases (continues_iff watch before).mp (reaches before less) with gone | goes
  · exact absurd (abandoned_of_le gone (Nat.le_of_lt less)) decided
  · exact goes

/-- What a wait holds at its first abandoned lookup is the map of the last answered one. -/
theorem latest_kept (gone : watch.verdict index = .abandoned)
    (goes : ∀ before < index, watch.GoesOn before) : watch.Latest (watch.kept index) := by
  cases index with
  | zero => exact .inr ⟨rfl, fun later => abandoned_of_le gone (Nat.zero_le later)⟩
  | succ index =>
      obtain ⟨returns, decided, -⟩ := goes index (Nat.lt_succ_self index)
      refine .inl ⟨index, ?_, fun later after => abandoned_of_le gone after⟩
      rw [kept]
      rw [decided]

/-- The first lookup that fails ends the wait with its error. -/
theorem resume_of_failed
    (prepared : prepare watch.config .lookUp (some watch.job.token) = .ok watch.url)
    (polls : 0 < watch.config.pollInterval) (stands : watch.Stands began 0 session)
    {error : ApiError} (reaches : watch.Reaches index)
    (decided : watch.verdict index = .failed error) :
    let step := watch.resume began 0 session
    step.result = .error error ∧ step.state.now = began + watch.finish index ∧
      watch.finish index < watch.config.timeout ∧
      requestsOf step.events = (List.range (index + 1)).flatMap (watch.requests began) := by
  have present : watch.verdict index ≠ .abandoned := by simp [decided]
  have ends : ¬ watch.GoesOn index := by simp [GoesOn, decided]
  obtain ⟨result, clock, sent⟩ :=
    resume_zero_eq prepared polls stands (goesOn_of_reaches reaches present) ends
  obtain gone | times := watch.abandoned_or_finish_lt index
  · exact absurd gone present
  · refine ⟨?_, clock, times.2, sent⟩
    rw [result, outcome, decided]

/-- The first lookup that covers every minion ends the wait with its map. -/
theorem resume_of_covering
    (prepared : prepare watch.config .lookUp (some watch.job.token) = .ok watch.url)
    (polls : 0 < watch.config.pollInterval) (stands : watch.Stands began 0 session)
    {returns : Members Json} (reaches : watch.Reaches index)
    (decided : watch.verdict index = .answered returns)
    (covers : ∀ minion ∈ watch.job.minions, returns.contains minion = true) :
    let step := watch.resume began 0 session
    step.result = .ok ⟨returns, []⟩ ∧ step.state.now = began + watch.finish index ∧
      watch.finish index < watch.config.timeout ∧
      requestsOf step.events = (List.range (index + 1)).flatMap (watch.requests began) := by
  have complete : watch.job.missing returns = [] := missing_eq_nil_iff.mpr covers
  have present : watch.verdict index ≠ .abandoned := by simp [decided]
  have ends : ¬ watch.GoesOn index := by
    rintro ⟨other, same, incomplete⟩
    rw [decided, Verdict.answered.injEq] at same
    subst same
    exact incomplete complete
  obtain ⟨result, clock, sent⟩ :=
    resume_zero_eq prepared polls stands (goesOn_of_reaches reaches present) ends
  obtain gone | times := watch.abandoned_or_finish_lt index
  · exact absurd gone present
  · refine ⟨?_, clock, times.2, sent⟩
    rw [result, outcome, decided]
    dsimp only
    rw [complete]

/-- A wait that no lookup ends lasts until the deadline. -/
theorem resume_of_continues
    (prepared : prepare watch.config .lookUp (some watch.job.token) = .ok watch.url)
    (polls : 0 < watch.config.pollInterval) (stands : watch.Stands began 0 session)
    (continues : ∀ index, watch.Continues index) :
    let step := watch.resume began 0 session
    step.state.now = began + watch.config.timeout ∧
      (∃ returns, watch.Latest returns ∧
        step.result = .ok ⟨returns, watch.job.missing returns⟩) ∧
      ∃ last, watch.verdict last = .abandoned ∧
        requestsOf step.events = (List.range (last + 1)).flatMap (watch.requests began) := by
  obtain ⟨index, ends, goes⟩ := watch.exists_first_end polls
  have gone : watch.verdict index = .abandoned :=
    ((watch.continues_iff index).mp (continues index)).resolve_right ends
  obtain ⟨result, clock, sent⟩ := resume_zero_eq prepared polls stands goes ends
  rw [finish_of_abandoned gone] at clock
  refine ⟨clock, ⟨watch.kept index, latest_kept gone goes, ?_⟩, index, gone, sent⟩
  rw [result, outcome, gone]

end Schedule

end Watch

/-- A wait in which no lookup can be sent ends at once. -/
theorem waitForReturns_of_unprepared {config : Config} {job : Job} {error : ApiError}
    (server : Server) (session : Session)
    (prepared : prepare config .lookUp (some job.token) = .error error) :
    waitForReturns config server job session = ⟨.error error, session, []⟩ := by
  have failed : lookUp config server job (session.now + config.timeout) session =
      .pure (.error error) session := by
    rw [lookUp, prepared]
  rw [waitForReturns, waitFrom_of_failed (congrArg Step.result failed), failed]
  rfl

/--
A wait against its schedule. The first lookup that fails ends it with its error,
the first one that covers every minion with its map and nothing missing, both at
the very time of that lookup and before the deadline. If there is neither, the
wait ends at the deadline, with the map of the last answered lookup and the minions
that are not in it. No lookup is sent but those of the schedule up to the end, each
at its start. Where no request can be made at all the first lookup fails at once.
-/
theorem waitForReturns_follows_schedule {config : Config} (server : Server) (job : Job)
    (session : Session) (polls : 0 < config.pollInterval) :
    let step := waitForReturns config server job session
    match prepare config .lookUp (some job.token) with
    | .error error => step.result = .error error ∧ step.state = session
    | .ok url =>
        let watch : Watch := ⟨config, server, job, url, session.lookups⟩
        (∀ index error, watch.Reaches index → watch.verdict index = .failed error →
          step.result = .error error ∧ step.state.now = session.now + watch.finish index ∧
            watch.finish index < config.timeout ∧
            requestsOf step.events =
              (List.range (index + 1)).flatMap (watch.requests session.now)) ∧
        (∀ index returns, watch.Reaches index → watch.verdict index = .answered returns →
          (∀ minion ∈ job.minions, returns.contains minion = true) →
          step.result = .ok ⟨returns, []⟩ ∧
            step.state.now = session.now + watch.finish index ∧
            watch.finish index < config.timeout ∧
            requestsOf step.events =
              (List.range (index + 1)).flatMap (watch.requests session.now)) ∧
        ((∀ index, watch.Continues index) →
          step.state.now = session.now + config.timeout ∧
          (∃ returns, watch.Latest returns ∧
            step.result = .ok ⟨returns,
              job.minions.filter fun minion => !returns.contains minion⟩) ∧
          ∃ last, watch.verdict last = .abandoned ∧
            requestsOf step.events =
              (List.range (last + 1)).flatMap (watch.requests session.now)) := by
  cases prepared : prepare config .lookUp (some job.token) with
  | error error =>
      rw [waitForReturns_of_unprepared server session prepared]
      exact ⟨rfl, rfl⟩
  | ok url =>
      have stands := Watch.stands_zero config server job url session
      refine ⟨?_, ?_, ?_⟩
      · intro index error reaches decided
        exact Watch.resume_of_failed prepared polls stands reaches decided
      · intro index returns reaches decided covers
        exact Watch.resume_of_covering prepared polls stands reaches decided covers
      · intro continues
        exact Watch.resume_of_continues prepared polls stands continues

/-! ## A reply that is due at the deadline -/

namespace Deadline

def config : Config :=
  { Config.make ⟨"http", "", none, some (.name "salt"), none, .segments [""], none, none⟩ "salt"
      "hunter2" with
    timeout := 100
    pollInterval := 30 }

/-- The second lookup starts at 40, so that its reply is due when the wait is over. -/
def server : Server :=
  ⟨.ofList .drop [], .ofList .drop [],
    .ofList .drop
      [.answer 10 200 (Text.Utf8.encode "\x7b\"return\":[\x7b\"db\":1\x7d]\x7d"),
        .answer 60 200 (Text.Utf8.encode "\x7b\"return\":[\x7b\"db\":1,\"web\":2\x7d]\x7d")]⟩

def job : Job :=
  ⟨"token", "7", ["web", "db"]⟩

def watch : Watch :=
  ⟨config, server, job, config.url, 0⟩

/-- The late reply does not count, and what came before it is not lost. -/
theorem wait_returns_earlier_reply :
    0 < config.pollInterval ∧
      let step := waitForReturns config server job .start
      step.state.now = 100 ∧ step.result = .ok ⟨[("db", .int 1)], ["web"]⟩ := by
  have polls : 0 < config.pollInterval := by decide
  have answered : watch.verdict 0 = .answered [("db", .int 1)] := by cbv
  have abandoned : watch.verdict 1 = .abandoned := by cbv
  have continues : ∀ index, watch.Continues index := by
    intro index
    rw [Watch.continues_iff]
    cases index with
    | zero => exact .inr ⟨_, answered, by decide⟩
    | succ index => exact .inl (Watch.abandoned_of_le abandoned (Nat.le_add_left 1 index))
  have prepared : prepare config .lookUp (some job.token) = .ok config.url := by rfl
  have follows := waitForReturns_follows_schedule server job .start polls
  rw [prepared] at follows
  obtain ⟨clock, ⟨returns, latest, result⟩, -⟩ := follows.2.2 continues
  refine ⟨polls, clock, ?_⟩
  rcases latest with ⟨index, decided, -⟩ | ⟨-, silent⟩
  · cases index with
    | zero =>
        have same := answered.symm.trans decided
        rw [Verdict.answered.injEq] at same
        rw [result, ← same]
        rfl
    | succ index =>
        have gone := Watch.abandoned_of_le abandoned (Nat.le_add_left 1 index)
        cases gone.symm.trans decided
  · cases answered.symm.trans (silent 0)

end Deadline

end PillarLookup.SaltApi
