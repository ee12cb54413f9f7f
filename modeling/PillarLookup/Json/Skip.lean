import PillarLookup.Json.Reader

/-!
# Skipping values

A value that nobody asked for is only checked for its shape: nesting is not
limited, numbers may be of any size and escapes may leave surrogates alone.
-/

namespace PillarLookup.Json

def skipExponent (text : List Char) : Except Fault (List Char) :=
  let digits := (exponentSign text).2
  match digits with
  | [] => failAt .invalidNumber []
  | first :: rest =>
      if Text.isDigit first then .ok (rest.dropWhile Text.isDigit)
      else failNext .invalidNumber (first :: rest)

def skipFractionTail : List Char → Except Fault (List Char)
  | 'e' :: rest => skipExponent rest
  | 'E' :: rest => skipExponent rest
  | rest => .ok rest

def skipNumberTail : List Char → Except Fault (List Char)
  | '.' :: rest =>
      match rest with
      | [] => failNext .invalidNumber []
      | first :: more =>
          if Text.isDigit first then skipFractionTail (more.dropWhile Text.isDigit)
          else failNext .invalidNumber (first :: more)
  | rest => skipFractionTail rest

/-- Skip a number after its minus sign, if it has one. -/
def skipNumber : List Char → Except Fault (List Char)
  | [] => failAt .invalidNumber []
  | first :: rest =>
      if first = '0' then
        match rest with
        | [] => .ok []
        | next :: more =>
            if Text.isDigit next then failNext .invalidNumber (next :: more)
            else skipNumberTail (next :: more)
      else if Text.isDigit first then skipNumberTail (rest.dropWhile Text.isDigit)
      else failNext .invalidNumber (first :: rest)

/-- Skip an escape, its backslash already consumed. -/
def skipEscape : List Char → Except Fault (List Char)
  | [] => failAt .endInString []
  | letter :: rest =>
      if (shortEscape? letter).isSome then .ok rest
      else if letter = 'u' then
        match readHexUnit rest with
        | .error fault => .error fault
        | .ok (_, more) => .ok more
      else failNext .invalidEscape (letter :: rest)

theorem skipEscape_shrinks {text rest : List Char} (skipped : skipEscape text = .ok rest) :
    rest.length ≤ text.length := by
  unfold skipEscape at skipped
  split at skipped
  · simp [failAt] at skipped
  · split at skipped
    · simp only [Except.ok.injEq] at skipped
      simp [← skipped]
    · split at skipped
      · split at skipped
        · contradiction
        · rename_i unit more read
          have := readHexUnit_shrinks read
          simp only [Except.ok.injEq] at skipped
          simp only [← skipped, List.length_cons]
          omega
      · simp [failNext] at skipped

/-- Skip a string, its opening quote already consumed. -/
def skipString : List Char → Except Fault (List Char)
  | [] => failAt .endInString []
  | char :: rest =>
      if char = '"' then .ok rest
      else if char = '\\' then
        match _skipped : skipEscape rest with
        | .error fault => .error fault
        | .ok more => skipString more
      else if char.toNat < 0x20 then failAt .controlCharacter (char :: rest)
      else skipString rest
termination_by text => text.length
decreasing_by
  · have := skipEscape_shrinks _skipped
    simp only [List.length_cons]
    omega
  · simp

/-- Skip a value that is no list and no object. -/
def skipScalar (first : Char) (rest : List Char) : Except Fault (List Char) :=
  if first = 'n' then readWord ['u', 'l', 'l'] rest
  else if first = 't' then readWord ['r', 'u', 'e'] rest
  else if first = 'f' then readWord ['a', 'l', 's', 'e'] rest
  else if first = '-' then skipNumber rest
  else if Text.isDigit first then skipNumber (first :: rest)
  else if first = '"' then skipString rest
  else failNext .expectedValue (first :: rest)

inductive Enclosure where
  | list
  | object
deriving DecidableEq, Repr

def Enclosure.closing : Enclosure → Char
  | .list => ']'
  | .object => '\x7d'

def Enclosure.atEnd : Enclosure → Cause
  | .list => .endInList
  | .object => .endInObject

def Enclosure.separatorExpected : Enclosure → Cause
  | .list => .expectedListCommaOrEnd
  | .object => .expectedObjectCommaOrEnd

/-- Skip a key with its quotes, and the colon after it. -/
def skipKey (text : List Char) : Except Fault (List Char) :=
  match skipBlanks text with
  | [] => failNext .endInObject []
  | first :: rest =>
      if first = '"' then
        match skipString rest with
        | .error fault => .error fault
        | .ok afterKey => readColon afterKey
      else failNext .keyNotString (first :: rest)

/-- Where a scan stands: before a value, just inside a list or object, or after a value. -/
inductive Phase where
  | value
  | opened
  | done
deriving DecidableEq, Repr

/--
Skip the rest of a value with `open?` lists and objects around it. Every step
takes a character or turns from one phase to the next, so that twice the length
of the text bounds the steps.
-/
def skipFrom : Nat → Phase → List Enclosure → List Char → Except Fault (List Char)
  | 0, _, _, text => failNext .endInValue text
  | _ + 1, .done, [], text => .ok text
  | bound + 1, .done, around :: outer, text =>
      match skipBlanks text with
      | [] => failNext around.atEnd []
      | next :: rest =>
          if next = around.closing then skipFrom bound .done outer rest
          else if next = ',' then
            match around with
            | .list => skipFrom bound .value (around :: outer) rest
            | .object =>
                match skipKey rest with
                | .error fault => .error fault
                | .ok left => skipFrom bound .value (around :: outer) left
          else failNext around.separatorExpected (next :: rest)
  | _ + 1, .opened, [], text => .ok text
  | bound + 1, .opened, around :: outer, text =>
      match skipBlanks text with
      | [] => failNext around.atEnd []
      | next :: rest =>
          if next = around.closing then skipFrom bound .done outer rest
          else
            match around with
            | .list => skipFrom bound .value (around :: outer) (next :: rest)
            | .object =>
                match skipKey (next :: rest) with
                | .error fault => .error fault
                | .ok left => skipFrom bound .value (around :: outer) left
  | bound + 1, .value, outer, text =>
      match skipBlanks text with
      | [] => failNext .endInValue []
      | first :: rest =>
          if first = '[' then skipFrom bound .opened (.list :: outer) rest
          else if first = '\x7b' then skipFrom bound .opened (.object :: outer) rest
          else
            match skipScalar first rest with
            | .error fault => .error fault
            | .ok left => skipFrom bound .done outer left

def skipValue (text : List Char) : Except Fault (List Char) :=
  skipFrom (2 * text.length + 2) .value [] text

end PillarLookup.Json
