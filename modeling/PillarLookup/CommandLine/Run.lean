import PillarLookup.CommandLine.Arguments
import PillarLookup.SaltApi.Client

/-!
# Runs

A run of the command reads its configuration, extracts the value and renders it.
It reports an exit status, what goes to the standard output and, as diagnostics
in order, warnings, entries of the log and at last the error. What it takes from
elsewhere, tables of characters and regular expressions, is a parameter.
-/

namespace PillarLookup.CommandLine

inductive Diagnostic where
  | logged (entry : LogEntry)
  | text (content : String)
deriving DecidableEq, Repr

structure Report where
  exitStatus : Int
  output : String
  diagnostics : List Diagnostic
  requests : List Http.Request
deriving Repr

inductive RunError where
  | config (error : ConfigError)
  | query (error : QueryError)
  | extraction (failure : Failure)
deriving DecidableEq, Repr

namespace RunError

def message : RunError → String
  | .config error => "Unable to read the Salt API configuration: " ++ error.message
  | .query error => error.message
  | .extraction failure => failure.message

def exitStatus : RunError → Int
  | .extraction failure => failure.exitCode
  | _ => 1

end RunError

/-- The part of the program that logs the configuration. -/
def logTarget : String := "get_pillar"

/-- What a run relies on that is not part of this library. -/
structure Platform where
  domains : Url.Domains
  patterns : LogPatterns

/-- Names of hosts in ASCII, and patterns that are looked for as they stand. -/
def Platform.plain : Platform :=
  ⟨.ascii, .literal⟩

def versionText : String := "get-pillar 0.1.0"

/-- The variable that sets the log filter in the place of the option. -/
def filterVariable : String := "RUST_LOG"

def logFilter (patterns : LogPatterns) (options : Options) (environment : Environment) :
    LogFilter × List String :=
  match environment.read filterVariable with
  | .ok spec => LogFilter.ofSpec patterns spec
  | .error _ => (LogFilter.ofThreshold options.logThreshold, [])

/-- The configuration with what the options change. -/
def configure (options : Options) (config : Config) : Config :=
  { config with
    ignoreSsl := options.ignoreSsl
    timeout := Duration.seconds options.timeout }

def configEntry (config : Config) : LogEntry :=
  ⟨.debug, logTarget, "Using " ++ config.describe⟩

/-- Extract the value that the options ask for. -/
def lookUp (options : Options) (config : Config) (server : SaltApi.Server) :
    Step SaltApi.Session (Except RunError Json) :=
  match Query.make options.target options.pillar with
  | .error error => .pure (.error (.query error)) .start
  | .ok query =>
      let query := query.withTargetType options.targetType
      let step := extract (SaltApi.client config server) query options.maxAttempts .start
      ⟨step.result.mapError .extraction, step.state, step.events⟩

/-- Find the value, with the events on the way. -/
def find (domains : Url.Domains) (options : Options) (environment : Environment)
    (server : SaltApi.Server) : Step SaltApi.Session (Except RunError Json) :=
  match Config.ofEnvironment domains environment with
  | .error error => .pure (.error (.config error)) .start
  | .ok config =>
      let config := configure options config
      (lookUp options config server).after [.logged (configEntry config)]

def admitted (filter : LogFilter) (events : List Event) : List Diagnostic :=
  ((logsOf events).filter filter.admits).map .logged

def run (platform : Platform) (options : Options) (environment : Environment)
    (server : SaltApi.Server) : Report :=
  let filter := logFilter platform.patterns options environment
  let step := find platform.domains options environment server
  let before := filter.2.map .text ++ admitted filter.1 step.events
  match step.result with
  | .ok value =>
      ⟨0, options.output.render value ++ "\n", before, requestsOf step.events⟩
  | .error error =>
      ⟨error.exitStatus, "", before ++ [.text error.message], requestsOf step.events⟩

/-- What a call of the command comes to. -/
inductive Call where
  | ran (report : Report)
  | version
  | rejected
deriving Repr

def call (platform : Platform) (arguments : List String) (environment : Environment)
    (server : SaltApi.Server) : Call :=
  match parse arguments with
  | .ok options => .ran (run platform options environment server)
  | .error .version => .version
  | .error .rejected => .rejected

/-- Lines after the first one of an entry are set in. -/
def indent (text : List Char) : List Char :=
  text.flatMap fun char => if char = '\n' then '\n' :: List.replicate 4 ' ' else [char]

/-- The width to which the names of levels are padded. -/
def levelWidth : Nat := 5

def entryText (time : String) (entry : LogEntry) : String :=
  let padding := String.ofList (List.replicate (levelWidth - entry.level.name.length) ' ')
  "[" ++ time ++ " " ++ entry.level.name ++ padding ++ " " ++ entry.target ++ "] " ++
    String.ofList (indent entry.text.toList)

/-- A diagnostic as it is written at a time, without its line end. -/
def Diagnostic.line (time : String) : Diagnostic → String
  | .logged entry => entryText time entry
  | .text content => content

end PillarLookup.CommandLine
