import PillarLookup.Json.Fault

/-!
# Blanks, words, numbers and strings

The parts of a JSON text below the level of lists and objects. Each reader takes
the characters that are left and returns those that remain.
-/

namespace PillarLookup.Json

abbrev Reader (α : Type) := List Char → Except Fault (α × List Char)

/-- A fault at the point reached. -/
def failAt {α : Type} (cause : Cause) (rest : List Char) : Except Fault α :=
  .error ⟨cause, rest, 0⟩

/-- A fault of the next byte. -/
def failNext {α : Type} (cause : Cause) (rest : List Char) : Except Fault α :=
  .error ⟨cause, rest, 1⟩

def isSpace (char : Char) : Bool :=
  char = ' ' || char = '\n' || char = '\t' || char = '\r'

def skipBlanks (text : List Char) : List Char :=
  text.dropWhile isSpace

/-- Read the remaining characters of a word. -/
def readWord : List Char → List Char → Except Fault (List Char)
  | [], rest => .ok rest
  | _ :: _, [] => failAt .endInValue []
  | expected :: more, char :: rest =>
      if char = expected then readWord more rest else failNext .expectedWord (char :: rest)

inductive Numeral where
  | int (value : Int)
  | real (value : Binary64)
deriving DecidableEq, Repr

/--
Extend a number by digits while it stays within a limit; the digits from the
first one on that would exceed it are returned.
-/
def absorb (limit : Nat) : Nat → List Char → Nat × List Char
  | value, [] => (value, [])
  | value, digit :: rest =>
      let longer := value * 10 + Text.digitValue digit
      if longer ≤ limit then absorb limit longer rest else (value, digit :: rest)

/-- An integer keeps its value if it is a word of 64 bits; a negative zero does not. -/
def integer (negative : Bool) (magnitude : Nat) : Numeral :=
  if !negative then .int magnitude
  else if 0 < magnitude ∧ magnitude ≤ leastSigned.natAbs then .int (-(magnitude : Int))
  else .real (Binary64.ofRatio true magnitude 1)

def realNumber (negative : Bool) (significand : Nat) (exponent : Int) : Reader Numeral :=
  fun rest =>
    match Binary64.ofDecimal? negative significand exponent with
    | some number => .ok (.real number, rest)
    | none => failAt .numberOutOfRange rest

/-- Exponents are read as words of 32 bits with a sign. -/
def greatestExponentRead : Nat := 2147483647

def exponentSign : List Char → Bool × List Char
  | '+' :: rest => (false, rest)
  | '-' :: rest => (true, rest)
  | rest => (false, rest)

/-- Read an exponent, its mark already consumed. -/
def readExponent (negative : Bool) (significand : Nat) (start : Int) : Reader Numeral :=
  fun text =>
    let signed := exponentSign text
    match signed.2 with
    | [] => failAt .endInValue []
    | first :: _ =>
        if !Text.isDigit first then failNext .invalidNumber signed.2
        else
          let digits := signed.2.takeWhile Text.isDigit
          let rest := signed.2.dropWhile Text.isDigit
          let taken := absorb greatestExponentRead 0 digits
          if taken.2.isEmpty then
            realNumber negative significand
              (if signed.1 then start - taken.1 else start + taken.1) rest
          else if significand ≠ 0 && !signed.1 then
            failAt .numberOutOfRange (signed.2.drop (digits.length - taken.2.length + 1))
          else .ok (.real (Binary64.zero negative), rest)

/-- Read a fraction, its point already consumed; `start` counts integer digits left out. -/
def readFraction (negative : Bool) (significand : Nat) (start : Int) : Reader Numeral :=
  fun text =>
    let digits := text.takeWhile Text.isDigit
    let rest := text.dropWhile Text.isDigit
    if digits.isEmpty then
      if text.isEmpty then failNext .endInValue text else failNext .invalidNumber text
    else
      let taken := absorb greatestUnsigned significand digits
      let exponent := start - ((digits.length : Int) - taken.2.length)
      match rest with
      | 'e' :: more => readExponent negative taken.1 exponent more
      | 'E' :: more => readExponent negative taken.1 exponent more
      | _ => realNumber negative taken.1 exponent rest

/-- Read what may follow the digits of an integer part. -/
def readNumberTail (negative : Bool) (significand : Nat) (leftOut : Nat) : Reader Numeral
  | '.' :: rest => readFraction negative significand leftOut rest
  | 'e' :: rest => readExponent negative significand leftOut rest
  | 'E' :: rest => readExponent negative significand leftOut rest
  | rest =>
      if leftOut = 0 then .ok (integer negative significand, rest)
      else realNumber negative significand leftOut rest

/-- Read a number after its minus sign, if it has one. -/
def readNumber (negative : Bool) : Reader Numeral
  | [] => failAt .endInValue []
  | first :: rest =>
      if first = '0' then
        match rest with
        | [] => readNumberTail negative 0 0 []
        | next :: more =>
            if Text.isDigit next then failNext .invalidNumber (next :: more)
            else readNumberTail negative 0 0 (next :: more)
      else if Text.isDigit first then
        let digits := (first :: rest).takeWhile Text.isDigit
        let taken := absorb greatestUnsigned 0 digits
        readNumberTail negative taken.1 taken.2.length ((first :: rest).dropWhile Text.isDigit)
      else failNext .invalidNumber (first :: rest)

def hexValue? (char : Char) : Option Nat :=
  let code := char.toNat
  if 48 ≤ code ∧ code ≤ 57 then some (code - 48)
  else if 97 ≤ code ∧ code ≤ 102 then some (code - 87)
  else if 65 ≤ code ∧ code ≤ 70 then some (code - 55)
  else none

def hexUnit? (first second third fourth : Char) : Option Nat := do
  let high ← hexValue? first
  let upper ← hexValue? second
  let lower ← hexValue? third
  let low ← hexValue? fourth
  return ((high * 16 + upper) * 16 + lower) * 16 + low

/-- Read the four digits of an escape; all four bytes are gone when one is no digit. -/
def readHexUnit : Reader Nat
  | first :: second :: third :: fourth :: rest =>
      match hexUnit? first second third fourth with
      | some unit => .ok (unit, rest)
      | none => .error ⟨.invalidEscape, first :: second :: third :: fourth :: rest, 4⟩
  | short =>
      if 4 ≤ (short.flatMap String.utf8EncodeChar).length then .error ⟨.invalidEscape, short, 4⟩
      else failAt .endInString []

def isLeadingSurrogate (unit : Nat) : Bool :=
  0xD800 ≤ unit && unit ≤ 0xDBFF

def isTrailingSurrogate (unit : Nat) : Bool :=
  0xDC00 ≤ unit && unit ≤ 0xDFFF

def joinSurrogates (leading trailing : Nat) : Char :=
  Char.ofNat (0x10000 + (leading - 0xD800) * 0x400 + (trailing - 0xDC00))

/-- Read the trailing half of a pair of escapes. -/
def readTrailingSurrogate (leading : Nat) : Reader Char
  | [] => failAt .endInString []
  | ['\\'] => failAt .endInString []
  | '\\' :: 'u' :: rest =>
      match readHexUnit rest with
      | .error fault => .error fault
      | .ok (trailing, more) =>
          if isTrailingSurrogate trailing then .ok (joinSurrogates leading trailing, more)
          else failAt .loneSurrogate more
  | '\\' :: rest => failNext .unfinishedSurrogatePair rest
  | rest => failNext .unfinishedSurrogatePair rest

def readUnicodeEscape : Reader Char := fun text =>
  match readHexUnit text with
  | .error fault => .error fault
  | .ok (unit, rest) =>
      if isTrailingSurrogate unit then failAt .loneSurrogate rest
      else if isLeadingSurrogate unit then readTrailingSurrogate unit rest
      else .ok (Char.ofNat unit, rest)

/-- The character that a single letter stands for after a backslash. -/
def shortEscape? (letter : Char) : Option Char :=
  if letter = '"' || letter = '\\' || letter = '/' then some letter
  else if letter = 'b' then some '\x08'
  else if letter = 'f' then some '\x0c'
  else if letter = 'n' then some '\n'
  else if letter = 'r' then some '\r'
  else if letter = 't' then some '\t'
  else none

/-- Read an escape, its backslash already consumed. -/
def readEscape : Reader Char
  | [] => failAt .endInString []
  | letter :: rest =>
      match shortEscape? letter with
      | some char => .ok (char, rest)
      | none =>
          if letter = 'u' then readUnicodeEscape rest
          else failNext .invalidEscape (letter :: rest)

theorem readHexUnit_shrinks {text rest : List Char} {unit : Nat}
    (read : readHexUnit text = .ok (unit, rest)) : rest.length ≤ text.length := by
  unfold readHexUnit at read
  split at read
  · split at read
    · simp only [Except.ok.injEq, Prod.mk.injEq] at read
      simp only [← read.2, List.length_cons]
      omega
    · contradiction
  · split at read
    · contradiction
    · simp [failAt] at read

theorem readTrailingSurrogate_shrinks {leading : Nat} {text rest : List Char} {char : Char}
    (read : readTrailingSurrogate leading text = .ok (char, rest)) :
    rest.length ≤ text.length := by
  unfold readTrailingSurrogate at read
  split at read
  · simp [failAt] at read
  · simp [failAt] at read
  · split at read
    · contradiction
    · rename_i tail trailing more unit
      split at read
      · simp only [Except.ok.injEq, Prod.mk.injEq] at read
        have := readHexUnit_shrinks unit
        simp only [← read.2, List.length_cons]
        omega
      · simp [failAt] at read
  · simp [failNext] at read
  · simp [failNext] at read

theorem readEscape_shrinks {text rest : List Char} {char : Char}
    (read : readEscape text = .ok (char, rest)) : rest.length ≤ text.length := by
  unfold readEscape at read
  split at read
  · simp [failAt] at read
  · split at read
    · simp only [Except.ok.injEq, Prod.mk.injEq] at read
      simp [← read.2]
    · split at read
      · unfold readUnicodeEscape at read
        split at read
        · contradiction
        · rename_i unit more first
          have := readHexUnit_shrinks first
          split at read
          · simp [failAt] at read
          · split at read
            · have := readTrailingSurrogate_shrinks read
              simp only [List.length_cons]
              omega
            · simp only [Except.ok.injEq, Prod.mk.injEq] at read
              simp only [← read.2, List.length_cons]
              omega
      · simp [failNext] at read

/-- Read a string up to its closing quote; `done` holds what was read, last character first. -/
def readStringFrom (done : List Char) : List Char → Except Fault (List Char × List Char)
  | [] => failAt .endInString []
  | char :: rest =>
      if char = '"' then .ok (done.reverse, rest)
      else if char = '\\' then
        match _read : readEscape rest with
        | .error fault => .error fault
        | .ok (meant, more) => readStringFrom (meant :: done) more
      else if char.toNat < 0x20 then failNext .controlCharacter (char :: rest)
      else readStringFrom (char :: done) rest
termination_by text => text.length
decreasing_by
  · have := readEscape_shrinks _read
    simp only [List.length_cons]
    omega
  · simp

/-- Read a string, its opening quote already consumed. -/
def readString : Reader String := fun text =>
  match readStringFrom [] text with
  | .error fault => .error fault
  | .ok (chars, rest) => .ok (String.ofList chars, rest)

end PillarLookup.Json
