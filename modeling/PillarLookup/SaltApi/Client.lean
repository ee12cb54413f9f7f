import PillarLookup.Extraction
import PillarLookup.SaltApi.Wait

/-!
# The Salt API client

A query logs in unless there is a token already, publishes the lookup as a job
and waits for the job. It yields the record of what came back and the record of
the minions that did not answer, or the reply that carried no job as it is.
-/

namespace PillarLookup.SaltApi

def loginEntry (config : Config) : LogEntry :=
  ⟨.debug, logTarget,
    "Logging in to '" ++ config.url.text ++ "' as '" ++ config.username ++ "' with eauth '" ++
      config.eauth ++ "'"⟩

/-- Log in and keep the token. -/
def logIn (config : Config) (server : Server) (session : Session) :
    Step Session (Except ApiError String) :=
  let posted := post config server .logIn none (loginBody config) config.timeout session
  let received := posted.andThen (receive .logIn loginShape)
  let step := received.andThen fun logins session =>
    match logins.head?.bind id with
    | none => .pure (.error .missingToken) session
    | some token => .pure (.ok token) { session with token := some token }
  step.after [.logged (loginEntry config)]

/-- The token of the session, or that of a new login. -/
def authenticate (config : Config) (server : Server) (session : Session) :
    Step Session (Except ApiError String) :=
  match session.token with
  | some token => .pure (.ok token) session
  | none => logIn config server session

def publish (config : Config) (server : Server) (token : String) (query : Query)
    (session : Session) : Step Session (Except ApiError Publication) :=
  let posted := post config server .publish (some token) (publishBody query) config.timeout session
  let received := posted.andThen (receive .publish publishShape)
  received.andThen fun values session =>
    .pure (.ok (Publication.ofValue (values.head?.getD .null))) session

def publishedEntry (id : String) (minions : List String) : LogEntry :=
  ⟨.debug, logTarget,
    "Published job '" ++ id ++ "' to " ++ toString minions.length ++ " minion(s)"⟩

def noMinionsEntry (query : Query) : LogEntry :=
  ⟨.debug, logTarget, "Target '" ++ query.target ++ "' matched no minions"⟩

def noJobEntry (reply : String) : LogEntry :=
  ⟨.debug, logTarget, "The Salt API did not return a job id: " ++ reply⟩

/-- A missing minion shows in the status of the second record. -/
def Collected.records (collected : Collected) : List Record :=
  [Record.ofReturns (some successStatus) collected.returns,
    Record.ofFailed
      (some (if collected.missing = [] then successStatus else incompleteStatus))
      collected.missing]

/-- Turn what a publication has led to into records. -/
def collect (config : Config) (server : Server) (token : String) (query : Query)
    (publication : Publication) (session : Session) :
    Step Session (Except ApiError (List Record)) :=
  match publication with
  | .job id minions =>
      let waited := waitForReturns config server ⟨token, id, minions⟩ session
      (waited.andThen fun collected session => .pure (.ok collected.records) session).after
        [.logged (publishedEntry id minions)]
  | .noMinions =>
      ⟨.ok (Collected.records ⟨[], []⟩), session, [.logged (noMinionsEntry query)]⟩
  | .incomplete reply =>
      ⟨.ok [Record.incomplete reply], session, [.logged (noJobEntry reply)]⟩

/-- Run a query. -/
def ask (config : Config) (server : Server) (query : Query) (session : Session) :
    Step Session (Except ApiError (List Record)) :=
  (authenticate config server session).andThen fun token session =>
    (publish config server token query session).andThen fun publication session =>
      collect config server token query publication session

/-- The client as the extraction sees it, with errors as texts. -/
def client (config : Config) (server : Server) : Client Session where
  ask query session :=
    let step := ask config server query session
    ⟨step.result.mapError ApiError.message, step.state, step.events⟩

/-- The client as a diagnostic shows it, without the token. -/
def describe (config : Config) (session : Session) : String :=
  "SaltApiClient \x7b config: " ++ config.describe ++ ", token: " ++
    Text.quote (if session.token.isSome then Config.redacted else "<none>") ++ " \x7d"

end PillarLookup.SaltApi
