import PillarLookup.SaltApi.Message
import PillarLookup.SaltApi.Server
import PillarLookup.Trace

/-!
# Exchanges

A session is what one client remembers: the clock, the token that a login yielded
and how many requests of each task were sent. An exchange prepares a request,
sends it, waits for the reply up to a limit and judges the answer.
-/

namespace PillarLookup.SaltApi

structure Session where
  now : Nat
  token : Option String
  logins : Nat
  publishes : Nat
  lookups : Nat
deriving DecidableEq, Repr

namespace Session

def start : Session :=
  ⟨0, none, 0, 0, 0⟩

def sent (session : Session) : Task → Nat
  | .logIn => session.logins
  | .publish => session.publishes
  | .lookUp => session.lookups

def countUp (session : Session) : Task → Session
  | .logIn => { session with logins := session.logins + 1 }
  | .publish => { session with publishes := session.publishes + 1 }
  | .lookUp => { session with lookups := session.lookups + 1 }

end Session

/-- The part of the program that logs exchanges. -/
def logTarget : String := "pillar_model::clients::salt_api"

def isWebScheme (scheme : String) : Bool :=
  scheme = "http" || scheme = "https"

/-- The address of a task; it ends in a slash or in the name of the endpoint. -/
def endpoint (config : Config) (task : Task) : Except Url.Fault Url :=
  config.url.withFinalSlash.resolve task.endpoint

/-- The address a request goes to, if a request can be made. -/
def prepare (config : Config) (task : Task) (token : Option String) : Except ApiError Url :=
  match endpoint config task with
  | .error fault => .error (.endpoint task.endpoint fault)
  | .ok url =>
      let address := url.withoutCredentials
      if !url.hasHost then .error (.request task (.schemeNotAllowed url.text))
      else if !token.all Http.isHeaderValue then .error (.request task .badHeaderValue)
      else if !isWebScheme url.scheme then
        .error (.request task (.schemeNotAllowed address.text))
      else if !address.isSendable then .error (.request task (.addressNotSendable address.text))
      else .ok address

/-- Send a request and wait for the reply; without any time for it nothing is sent. -/
def send (server : Server) (task : Task) (request : Http.Request) (limit : Nat)
    (session : Session) : Step Session Fate :=
  if limit = 0 then .pure .overdue session
  else
    let reply := (server.script task).answer (session.sent task)
    ⟨reply.fate limit,
      { session with now := session.now + reply.span limit }.countUp task,
      [.sent request]⟩

/-- The answer that a request has led to. -/
def Fate.answer (task : Task) (url : Url) : Fate → Except ApiError Answer
  | .arrived answer => .ok answer
  | .overdue => .error (.request task (.timedOut url.text))
  | .dropped => .error (.request task (.connectionClosed url.text))

def request (url : Url) (token : Option String) (body : Json) (session : Session) :
    Http.Request :=
  ⟨url.target, token, body.text, session.now⟩

/-- Post a body and wait up to a limit for the answer. -/
def post (config : Config) (server : Server) (task : Task) (token : Option String) (body : Json)
    (limit : Nat) (session : Session) : Step Session (Except ApiError Answer) :=
  match prepare config task token with
  | .error error => .pure (.error error) session
  | .ok url =>
      let step := send server task (request url token body session) limit session
      ⟨step.result.answer task url, step.state, step.events⟩

/-- The value of an answer: its status is judged before its body. -/
def judge {α : Type} (task : Task) (shape : Json.Shape α) (answer : Answer) :
    Except ApiError α :=
  if Http.isSuccess answer.status then
    match shape.decode answer.text with
    | .ok value => .ok value
    | .error error => .error (.undecodable task error)
  else .error (.httpStatus task answer.status answer.text)

/-- The answer to a login carries the token and is not logged. -/
def answerEvents (task : Task) (answer : Answer) : List Event :=
  if task = .logIn then []
  else
    [.logged ⟨.trace, logTarget,
      "Salt API reply to '" ++ task.describe ++ "' (" ++ Http.describeStatus answer.status ++
        "): " ++ answer.text⟩]

def receive {α : Type} (task : Task) (shape : Json.Shape α) (answer : Answer)
    (session : Session) : Step Session (Except ApiError α) :=
  ⟨judge task shape answer, session, answerEvents task answer⟩

theorem now_countUp (session : Session) (task : Task) :
    (session.countUp task).now = session.now := by
  cases task <;> rfl

theorem now_le_send (server : Server) (task : Task) (request : Http.Request)
    (limit : Nat) (session : Session) :
    session.now ≤ (send server task request limit session).state.now := by
  unfold send
  split
  · exact Nat.le_refl _
  · rw [now_countUp]
    exact Nat.le_add_right _ _

theorem send_now_le (server : Server) (task : Task) (request : Http.Request)
    (limit : Nat) (session : Session) :
    (send server task request limit session).state.now ≤ session.now + limit := by
  unfold send
  split
  · exact Nat.le_add_right _ _
  · rw [now_countUp]
    exact Nat.add_le_add_left (Reply.span_le _ _) _

end PillarLookup.SaltApi
