import PillarLookup.Record
import PillarLookup.SaltApi.Session

/-!
# Waiting for a job

A job is looked up until every minion has returned a value or a deadline passes.
Between two lookups the clock moves on by the poll interval, but not beyond the
deadline. A lookup that is not answered by the deadline is abandoned, and what
the one before it returned counts.

The deadline and the limit of a lookup are sums of times without an upper bound. That
such a sum is beyond the range of the clock, over which a program panics, is left out.
-/

namespace PillarLookup.SaltApi

/-- What has come back from a job, and the minions that have not answered. -/
structure Collected where
  returns : Members Json
  missing : List String
deriving Repr

/-- A job that was published, and the token to ask for it. -/
structure Job where
  token : String
  id : String
  minions : List String
deriving DecidableEq, Repr

namespace Job

def missing (job : Job) (returns : Members Json) : List String :=
  job.minions.filter fun minion => !returns.contains minion

def abandonedEntry (job : Job) : LogEntry :=
  ⟨.debug, logTarget, "Lookup of job '" ++ job.id ++ "' was still running at the deadline"⟩

def timedOutEntry (job : Job) (missing : List String) : LogEntry :=
  ⟨.info, logTarget,
    "Job '" ++ job.id ++ "' timed out waiting for: " ++ String.intercalate ", " missing⟩

def waitingEntry (job : Job) (missing : List String) : LogEntry :=
  ⟨.debug, logTarget,
    "Job '" ++ job.id ++ "' is waiting for " ++ toString missing.length ++ " of " ++
      toString job.minions.length ++ " minion(s)"⟩

end Job

/-- The limit of a lookup, which outlasts the wait for its job; the sum does not overflow here. -/
def lookupLimit (config : Config) : Nat :=
  config.timeout + config.pollInterval

/-- Look a job up; there is no answer if the lookup is abandoned at the deadline. -/
def lookUp (config : Config) (server : Server) (job : Job) (deadline : Nat)
    (session : Session) : Step Session (Except ApiError (Option (Members Json))) :=
  match prepare config .lookUp (some job.token) with
  | .error error => .pure (.error error) session
  | .ok url =>
      let left := deadline - session.now
      let sent := send server .lookUp
        (request url (some job.token) (lookupBody job.id) session)
        (min (lookupLimit config) left) session
      if sent.result = .overdue ∧ left < lookupLimit config then
        ⟨.ok none, sent.state, sent.events⟩
      else
        match sent.result.answer .lookUp url with
        | .error error => ⟨.error error, sent.state, sent.events⟩
        | .ok answer =>
            ⟨(judge .lookUp lookupShape answer).map fun items => some (items.head?.getD []),
              sent.state, sent.events ++ answerEvents .lookUp answer⟩

theorem now_le_lookUp (config : Config) (server : Server) (job : Job) (deadline : Nat)
    (session : Session) : session.now ≤ (lookUp config server job deadline session).state.now := by
  unfold lookUp
  split
  · exact Nat.le_refl _
  · dsimp only
    split
    · exact now_le_send ..
    · split <;> exact now_le_send ..

/-- Before the deadline a lookup that does not fail has been sent. -/
theorem lookups_lookUp {config : Config} {server : Server} {job : Job}
    {deadline : Nat} {session : Session} {found : Option (Members Json)}
    (answered : (lookUp config server job deadline session).result = .ok found)
    (early : session.now < deadline) :
    (lookUp config server job deadline session).state.lookups = session.lookups + 1 := by
  unfold lookUp at answered ⊢
  split at answered
  · cases answered
  · dsimp only at answered ⊢
    by_cases noTime : min (lookupLimit config) (deadline - session.now) = 0
    · have unlimited : lookupLimit config = 0 := by omega
      simp [send, unlimited, Step.pure, Fate.answer] at answered
    · have counted : ∀ request : Http.Request,
          (send server .lookUp request (min (lookupLimit config) (deadline - session.now))
            session).state.lookups = session.lookups + 1 := by
        intro request
        unfold send
        rw [if_neg noTime]
        rfl
      split
      · exact counted _
      · split <;> exact counted _

/-- The replies of the script that no lookup has taken yet. -/
def unseen (server : Server) (session : Session) : Nat :=
  server.lookup.turns.length - session.lookups

/--
When to look again. Where neither the clock nor the script moves on, nothing can
change any more before the deadline.
-/
def wakeTime (config : Config) (server : Server) (deadline : Nat)
    (before after : Session) : Nat :=
  let wake := min deadline (after.now + config.pollInterval)
  if wake = before.now ∧ unseen server before = 0 then deadline else wake

theorem wake_decreases {config : Config} {server : Server} {job : Job}
    {deadline : Nat} {session : Session} {found : Option (Members Json)}
    (answered : (lookUp config server job deadline session).result = .ok found)
    (early : (lookUp config server job deadline session).state.now < deadline) :
    let after := (lookUp config server job deadline session).state
    let next := { after with now := wakeTime config server deadline session after }
    deadline - next.now + unseen server next < deadline - session.now + unseen server session := by
  have later := now_le_lookUp config server job deadline session
  have counted := lookups_lookUp answered (Nat.lt_of_le_of_lt later early)
  dsimp only
  generalize (lookUp config server job deadline session).state = after at *
  unfold wakeTime unseen
  dsimp only
  split <;> omega

/-- Wait for the rest of a job of which `returns` has come back so far. -/
def waitFrom (config : Config) (server : Server) (job : Job) (deadline : Nat)
    (returns : Members Json) (session : Session) : Step Session (Except ApiError Collected) :=
  let look := lookUp config server job deadline session
  match answered : look.result with
  | .error error => ⟨.error error, look.state, look.events⟩
  | .ok found =>
      let current := found.getD returns
      let missing := job.missing current
      let events := look.events ++ if found.isNone then [.logged job.abandonedEntry] else []
      if missing = [] then ⟨.ok ⟨current, []⟩, look.state, events⟩
      else if ended : deadline ≤ look.state.now then
        ⟨.ok ⟨current, missing⟩, look.state, events ++ [.logged (job.timedOutEntry missing)]⟩
      else
        (waitFrom config server job deadline current
          { look.state with now := wakeTime config server deadline session look.state }).after
          (events ++ [.logged (job.waitingEntry missing)])
termination_by deadline - session.now + unseen server session
decreasing_by exact wake_decreases answered (Nat.lt_of_not_le ended)

/--
Wait for a job that was just published. The deadline is the exact sum of the time and the
timeout; the panic where it lies beyond the range of the clock is left out.
-/
def waitForReturns (config : Config) (server : Server) (job : Job) (session : Session) :
    Step Session (Except ApiError Collected) :=
  waitFrom config server job (session.now + config.timeout) [] session

end PillarLookup.SaltApi
