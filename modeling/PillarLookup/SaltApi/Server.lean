import PillarLookup.Duration
import PillarLookup.Http
import PillarLookup.SaltApi.Error
import PillarLookup.Script
import PillarLookup.Text.Marked

/-!
# Servers

A server answers each task from a script. A reply comes after a delay, or never,
or the connection is closed in its place; whoever waits for it gives up at a
limit, and a reply that is due exactly then comes too late.
-/

namespace PillarLookup.SaltApi

inductive Reply where
  | answer (delay : Nat) (status : Nat) (body : List UInt8)
  | stall
  | drop
deriving DecidableEq, Repr

structure Answer where
  status : Nat
  body : List UInt8
deriving DecidableEq, Repr

/-- The body as text, if the status allows for one. -/
def Answer.text (answer : Answer) : String :=
  if Http.isBodiless answer.status then "" else Text.decodeMarked answer.body

/-- What a request has come to when the wait for it ends. -/
inductive Fate where
  | arrived (answer : Answer)
  | overdue
  | dropped
deriving DecidableEq, Repr

namespace Reply

def fate (limit : Nat) : Reply → Fate
  | .answer delay status body => if delay < limit then .arrived ⟨status, body⟩ else .overdue
  | .stall => .overdue
  | .drop => .dropped

/-- How long the wait takes. -/
def span (limit : Nat) : Reply → Nat
  | .answer delay _ _ => min delay limit
  | .stall => limit
  | .drop => 0

theorem span_le (limit : Nat) (reply : Reply) : reply.span limit ≤ limit := by
  cases reply with
  | answer delay status body => exact Nat.min_le_right delay limit
  | stall => exact Nat.le_refl limit
  | drop => exact Nat.zero_le limit

theorem span_eq_of_overdue {limit : Nat} {reply : Reply}
    (overdue : reply.fate limit = .overdue) : reply.span limit = limit := by
  cases reply with
  | answer delay status body =>
      by_cases early : delay < limit
      · simp [fate, early] at overdue
      · exact Nat.min_eq_right (Nat.not_lt.mp early)
  | stall => rfl
  | drop => simp [fate] at overdue

theorem span_lt_of_arrived {limit : Nat} {reply : Reply} {answer : Answer}
    (arrived : reply.fate limit = .arrived answer) : reply.span limit < limit := by
  cases reply with
  | answer delay status body =>
      by_cases early : delay < limit
      · exact Nat.lt_of_le_of_lt (Nat.min_le_left delay limit) early
      · simp [fate, early] at arrived
  | stall => simp [fate] at arrived
  | drop => simp [fate] at arrived

end Reply

structure Server where
  login : Script Reply
  publish : Script Reply
  lookup : Script Reply
deriving Repr

def Server.script (server : Server) : Task → Script Reply
  | .logIn => server.login
  | .publish => server.publish
  | .lookUp => server.lookup

end PillarLookup.SaltApi
