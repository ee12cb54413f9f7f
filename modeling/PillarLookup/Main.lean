import PillarLookup.CommandLine.Run
import PillarLookup.SaltApi.Rehearsal

/-!
# The command

Runs `get-pillar` against a rehearsal, whose script is read from the standard
input. Names of hosts have to be in ASCII, and a pattern in the log filter is
looked for as it stands.
-/

namespace PillarLookup.CommandLine

/-- The time that entries of a rehearsal bear. -/
def rehearsalTime : String := "REHEARSAL"

def variableNames : List String :=
  [Config.urlVariable, Config.usernameVariable, Config.passwordVariable, Config.eauthVariable,
    filterVariable]

def readEnvironment : IO Environment := do
  let values ← variableNames.mapM fun name => do return (name, ← IO.getEnv name)
  return fun key => ((values.lookup key).bind id).map Text.Utf8.encode

def readServer : IO SaltApi.Server := do
  let script ← (← IO.getStdin).lines
  let text := "\n".intercalate script.toList
  match Json.decode text with
  | .ok value => return SaltApi.Rehearsal.server value
  | .error _ => return SaltApi.Rehearsal.server (.obj [])

/-- Write a report and return the status to exit with. -/
def write (report : Report) : IO UInt32 := do
  for diagnostic in report.diagnostics do
    IO.eprintln (diagnostic.line rehearsalTime)
  IO.print report.output
  return UInt32.ofNat (report.exitStatus % 256).toNat

end PillarLookup.CommandLine

open PillarLookup.CommandLine in
def main (arguments : List String) : IO UInt32 := do
  match call .plain arguments (← readEnvironment) (← readServer) with
  | .ran report => write report
  | .version =>
      IO.println versionText
      return 0
  | .rejected =>
      IO.eprintln "usage: get-pillar [OPTIONS] <TARGET> <PILLAR>"
      return 2
