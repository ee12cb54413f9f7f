/-!
# Log entries

What the lookup reports while it runs: a level, the part of the program that
speaks, and a text.
-/

namespace PillarLookup

inductive LogLevel where
  | error
  | warn
  | info
  | debug
  | trace
deriving DecidableEq, Repr

namespace LogLevel

def all : List LogLevel :=
  [.error, .warn, .info, .debug, .trace]

def name : LogLevel → String
  | .error => "ERROR"
  | .warn => "WARN"
  | .info => "INFO"
  | .debug => "DEBUG"
  | .trace => "TRACE"

/-- Levels count up from the most severe one. -/
def rank : LogLevel → Nat
  | .error => 1
  | .warn => 2
  | .info => 3
  | .debug => 4
  | .trace => 5

end LogLevel

structure LogEntry where
  level : LogLevel
  target : String
  text : String
deriving DecidableEq, Repr

end PillarLookup
