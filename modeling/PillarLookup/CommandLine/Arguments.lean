import PillarLookup.Extraction
import PillarLookup.Log.Filter
import PillarLookup.OutputFormat
import PillarLookup.Text.Digits

/-!
# Arguments

The words of a command line are told apart first: settings with a value, which
stands behind an equals sign or is the next word, the flag and the operands. Only
then are they put together. A request for the version stops the first stage, so
that it wins over faults that only the second stage finds.
-/

namespace PillarLookup.CommandLine

/-- The options that take a value. -/
inductive Setting where
  | logLevel
  | maxAttempts
  | targetType
  | timeout
  | output
deriving DecidableEq, Repr

namespace Setting

def all : List Setting :=
  [.logLevel, .maxAttempts, .targetType, .timeout, .output]

def name : Setting → String
  | .logLevel => "log-level"
  | .maxAttempts => "max-attempts"
  | .targetType => "target-type"
  | .timeout => "timeout"
  | .output => "output"

def ofName? (name : String) : Option Setting :=
  all.find? fun setting => setting.name = name

end Setting

structure Options where
  logThreshold : LogThreshold
  maxAttempts : Nat
  targetType : TargetType
  /-- In seconds. -/
  timeout : Nat
  ignoreSsl : Bool
  output : OutputFormat
  target : String
  pillar : String
  maxAttempts_pos : 0 < maxAttempts
deriving DecidableEq, Repr

/-- What ends the reading of the arguments early. -/
inductive Stop where
  | version
  | rejected
deriving DecidableEq, Repr

inductive Word where
  /-- A setting without a value is one whose value is missing. -/
  | setting (setting : Setting) (value : Option String)
  | ignoreSsl
  | operand (text : String)
deriving DecidableEq, Repr

/-- What an argument looks like, wherever it stands. -/
inductive Form where
  | escape
  | long (name : String) (value : Option String)
  | short (letters : List Char)
  | plain (text : String)
deriving DecidableEq, Repr

def Form.ofArgument (argument : String) : Form :=
  match argument.toList with
  | ['-', '-'] => .escape
  | '-' :: '-' :: rest =>
      let name := String.ofList (rest.takeWhile (· ≠ '='))
      match rest.dropWhile (· ≠ '=') with
      | [] => .long name none
      | _ :: value => .long name (some (String.ofList value))
  | ['-'] => .plain argument
  | '-' :: letters => .short letters
  | _ => .plain argument

/-- What an option means: a setting that awaits its value, or complete words. -/
inductive Meaning where
  | awaits (setting : Setting)
  | word (word : Word)
  | stop (stop : Stop)
deriving DecidableEq, Repr

def longMeaning (name : String) (value : Option String) : Meaning :=
  match Setting.ofName? name, value with
  | some setting, none => .awaits setting
  | some setting, some text => .word (.setting setting (some text))
  | none, none =>
      if name = "ignore-ssl" then .word .ignoreSsl
      else if name = "version" then .stop .version
      else .stop .rejected
  | none, some _ => .stop .rejected

/-- The only option of one letter asks for the version. -/
def shortMeaning (letters : List Char) : Stop :=
  if letters.head? = some 'V' then .version else .rejected

/-- The most operands there can be. -/
def operandLimit : Nat := 2

/-- The word of a setting whose value did not follow. -/
def unfinished (pending : Option Setting) : List Word :=
  match pending with
  | some setting => [.setting setting none]
  | none => []

/-- Tell words apart; `pending` awaits its value and `operands` were found so far. -/
def scan (pending : Option Setting) (operands : Nat) : List String → Except Stop (List Word)
  | [] => .ok (unfinished pending)
  | argument :: rest =>
      match Form.ofArgument argument with
      | .escape =>
          if operandLimit < operands + rest.length then .error .rejected
          else .ok (unfinished pending ++ rest.map .operand)
      | .short letters => .error (shortMeaning letters)
      | .long name value =>
          match longMeaning name value with
          | .stop stop => .error stop
          | .awaits setting =>
              (scan (some setting) operands rest).map (unfinished pending ++ ·)
          | .word word => (scan none operands rest).map (unfinished pending ++ word :: ·)
      | .plain text =>
          match pending with
          | some setting =>
              (scan none operands rest).map (.setting setting (some text) :: ·)
          | none =>
              if operands < operandLimit then
                (scan none (operands + 1) rest).map (.operand text :: ·)
              else .error .rejected

def valuesOf (setting : Setting) (words : List Word) : List (Option String) :=
  words.filterMap fun
    | .setting other value => if other = setting then some value else none
    | _ => none

def operandsOf (words : List Word) : List String :=
  words.filterMap fun
    | .operand text => some text
    | _ => none

/-- The value of a setting that is given at most once. -/
def readSetting {α : Type} (parse : String → Option α) (fallback : α) (setting : Setting)
    (words : List Word) : Option α :=
  match valuesOf setting words with
  | [] => some fallback
  | [some value] => parse value
  | _ => none

def readFlag (words : List Word) : Option Bool :=
  match words.filter (· = .ignoreSsl) with
  | [] => some false
  | [_] => some true
  | _ => none

def greatestAttempts : Nat := 4294967295

def greatestTimeout : Nat := 18446744073709551615

def defaultTimeoutSeconds : Nat := 60

/-- Put the words together; `none` if they make no call. -/
def assemble (words : List Word) : Option Options := do
  let logThreshold ←
    readSetting (fun text => LogThreshold.ofChars? text.toList) (some .info) .logLevel words
  let maxAttempts ←
    readSetting (fun text => Text.natural? greatestAttempts text.toList)
      Extraction.defaultMaxAttempts .maxAttempts words
  let targetType ← readSetting TargetType.ofName? .default .targetType words
  let timeout ←
    readSetting (fun text => Text.natural? greatestTimeout text.toList) defaultTimeoutSeconds
      .timeout words
  let ignoreSsl ← readFlag words
  let output ← readSetting OutputFormat.ofName? .default .output words
  match operandsOf words with
  | [target, pillar] =>
      if positive : 0 < maxAttempts then
        some ⟨logThreshold, maxAttempts, targetType, timeout, ignoreSsl, output, target, pillar,
          positive⟩
      else none
  | _ => none

def parse (arguments : List String) : Except Stop Options :=
  match scan none 0 arguments with
  | .error stop => .error stop
  | .ok words =>
      match assemble words with
      | some options => .ok options
      | none => .error .rejected

end PillarLookup.CommandLine
