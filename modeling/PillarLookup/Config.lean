import PillarLookup.Duration
import PillarLookup.Url.Parser

/-!
# Configuration

What is needed to reach the Salt API, read from environment variables. The
address and the authentication backend have defaults, which also stand in for
values that are no text; the credentials are required. The address is judged
before the credentials are read.

Timeouts and intervals are natural numbers, so that their sums are always exact. The
panic over a sum beyond the range of durations or of the clock is left out.
-/

namespace PillarLookup

/-- The values of the environment variables that are set, as bytes. -/
abbrev Environment := String → Option (List UInt8)

namespace Environment

inductive ReadFault where
  | unset
  | notText (bytes : List UInt8)
deriving DecidableEq, Repr

def ReadFault.message : ReadFault → String
  | .unset => "environment variable not found"
  | .notText bytes => "environment variable was not valid unicode: " ++ Text.quoteBytes bytes

def read (environment : Environment) (key : String) : Except ReadFault String :=
  match environment key with
  | none => .error .unset
  | some bytes =>
      match Text.Utf8.decode? bytes with
      | none => .error (.notText bytes)
      | some text => .ok text

def readD (environment : Environment) (key fallback : String) : String :=
  match environment.read key with
  | .ok text => text
  | .error _ => fallback

end Environment

/-- Times are in milliseconds and have no greatest value. -/
structure Config where
  url : Url
  username : String
  password : String
  /-- The authentication backend. -/
  eauth : String
  /-- Whether certificates that cannot be verified are accepted. -/
  ignoreSsl : Bool
  /-- How long every minion may take to answer. -/
  timeout : Nat
  /-- The pause between two lookups of a job. -/
  pollInterval : Nat
deriving DecidableEq, Repr

inductive ConfigError where
  | badUrl (value : String) (fault : Url.Fault)
  | unreadable (key : String) (fault : Environment.ReadFault)
deriving DecidableEq, Repr

namespace Config

def urlVariable : String := "SALTAPI_URL"

def usernameVariable : String := "SALTAPI_USER"

def passwordVariable : String := "SALTAPI_PASS"

def eauthVariable : String := "SALTAPI_EAUTH"

def defaultUrl : String := "https://localhost:8000"

def defaultEauth : String := "auto"

def defaultTimeout : Nat := Duration.seconds 60

def defaultPollInterval : Nat := Duration.seconds 1

/-- The configuration with defaults for all but the address and the credentials. -/
def make (url : Url) (username password : String) : Config :=
  ⟨url, username, password, defaultEauth, false, defaultTimeout, defaultPollInterval⟩

def ofEnvironment (domains : Url.Domains) (environment : Environment) :
    Except ConfigError Config :=
  let address := environment.readD urlVariable defaultUrl
  match Url.parse domains address with
  | .error fault => .error (.badUrl address fault)
  | .ok url =>
      match environment.read usernameVariable with
      | .error fault => .error (.unreadable usernameVariable fault)
      | .ok username =>
          match environment.read passwordVariable with
          | .error fault => .error (.unreadable passwordVariable fault)
          | .ok password =>
              let eauth := environment.readD eauthVariable defaultEauth
              .ok { make url username password with eauth }

/-- What a diagnostic shows in the place of a secret. -/
def redacted : String := "<redacted>"

/-- The configuration as a diagnostic shows it, without the password. -/
def describe (config : Config) : String :=
  "SaltApiConfig \x7b url: " ++ Text.quote config.url.text ++
    ", username: " ++ Text.quote config.username ++
    ", password: " ++ Text.quote redacted ++
    ", eauth: " ++ Text.quote config.eauth ++
    ", ignore_ssl: " ++ (if config.ignoreSsl then "true" else "false") ++
    ", timeout: " ++ Duration.text config.timeout ++
    ", poll_interval: " ++ Duration.text config.pollInterval ++ " \x7d"

end Config

def ConfigError.message : ConfigError → String
  | .badUrl value fault =>
      "Unable to parse '" ++ Config.urlVariable ++ "' from '" ++ value ++ "': " ++ fault.message
  | .unreadable key fault =>
      "Unable to read environment variable '" ++ key ++ "': " ++ fault.message

end PillarLookup
