import PillarLookup.Json.Reader

/-!
# Reading printed lexemes

Strings and integers read back from their compact text, whatever follows a string
and where no further digit, point or exponent follows a number. In the other
direction every integer that is read is a word of 64 bits.
-/

namespace PillarLookup.Json

theorem skipBlanks_cons {char : Char} (visible : isSpace char = false) (rest : List Char) :
    skipBlanks (char :: rest) = char :: rest := by
  simp [skipBlanks, visible]

/-! ## Strings -/

theorem hexValue?_lowerHexDigit {value : Nat} (small : value < 16) :
    hexValue? (lowerHexDigit value) = some value := by
  have cases : ∀ value < 16, hexValue? (lowerHexDigit value) = some value := by decide
  exact cases value small

/-- A control character reads back from the four digits of its escape. -/
theorem readUnicodeEscape_control {char : Char} (control : char.toNat < 0x20)
    (rest : List Char) :
    readUnicodeEscape ('0' :: '0' :: lowerHexDigit (char.toNat / 16) ::
      lowerHexDigit (char.toNat % 16) :: rest) = .ok (char, rest) := by
  have high : hexValue? (lowerHexDigit (char.toNat / 16)) = some (char.toNat / 16) :=
    hexValue?_lowerHexDigit (by omega)
  have low : hexValue? (lowerHexDigit (char.toNat % 16)) = some (char.toNat % 16) :=
    hexValue?_lowerHexDigit (by omega)
  have zero : hexValue? '0' = some 0 := by decide
  have unit : hexUnit? '0' '0' (lowerHexDigit (char.toNat / 16))
      (lowerHexDigit (char.toNat % 16)) = some char.toNat := by
    simp only [hexUnit?, high, low, zero, Option.bind_eq_bind, Option.bind_some, Option.pure_def,
      Option.some.injEq]
    omega
  have notTrailing : isTrailingSurrogate char.toNat = false := by
    simp only [isTrailingSurrogate, Bool.and_eq_false_iff, decide_eq_false_iff_not]
    omega
  have notLeading : isLeadingSurrogate char.toNat = false := by
    simp only [isLeadingSurrogate, Bool.and_eq_false_iff, decide_eq_false_iff_not]
    omega
  simp [readUnicodeEscape, readHexUnit, unit, notTrailing, notLeading]

/-- What a character is printed as: a backslash and a letter, a code, or itself. -/
theorem escape_cases (char : Char) :
    (∃ letter, shortEscape? letter = some char ∧ escape char = ['\\', letter]) ∨
    (char.toNat < 0x20 ∧ escape char = ['\\', 'u', '0', '0', lowerHexDigit (char.toNat / 16),
      lowerHexDigit (char.toNat % 16)]) ∨
    (char ≠ '"' ∧ char ≠ '\\' ∧ ¬ char.toNat < 0x20 ∧ escape char = [char]) := by
  rw [escape]
  split
  · exact .inl ⟨'"', by subst char; rfl, rfl⟩
  split
  · exact .inl ⟨'\\', by subst char; rfl, rfl⟩
  split
  · exact .inl ⟨'b', by subst char; rfl, rfl⟩
  split
  · exact .inl ⟨'f', by subst char; rfl, rfl⟩
  split
  · exact .inl ⟨'n', by subst char; rfl, rfl⟩
  split
  · exact .inl ⟨'r', by subst char; rfl, rfl⟩
  split
  · exact .inl ⟨'t', by subst char; rfl, rfl⟩
  split
  · rename_i control
    exact .inr (.inl ⟨control, rfl⟩)
  · rename_i notQuote notBackslash _ _ _ _ _ plain
    exact .inr (.inr ⟨notQuote, notBackslash, plain, rfl⟩)

/-- Whatever stands behind a backslash is read as the character that it means. -/
theorem readStringFrom_backslash {meant : Char} {text rest : List Char}
    (read : readEscape text = .ok (meant, rest)) (done : List Char) :
    readStringFrom done ('\\' :: text) = readStringFrom (meant :: done) rest := by
  have notQuote : ('\\' : Char) ≠ '"' := by decide
  rw [readStringFrom, if_neg notQuote, if_pos rfl]
  split
  · rename_i fault failed
    rw [read] at failed
    contradiction
  · rename_i other left found
    rw [read] at found
    cases found
    rfl

/-- The reader takes the escape of a character for that character. -/
theorem readStringFrom_escape (done : List Char) (char : Char) (rest : List Char) :
    readStringFrom done (escape char ++ rest) = readStringFrom (char :: done) rest := by
  rcases escape_cases char with
    ⟨letter, short, printed⟩ | ⟨control, printed⟩ | ⟨notQuote, notBackslash, plain, printed⟩
  · rw [printed]
    exact readStringFrom_backslash (by simp [readEscape, short]) done
  · rw [printed]
    have unicode : readEscape ('u' :: '0' :: '0' :: lowerHexDigit (char.toNat / 16) ::
        lowerHexDigit (char.toNat % 16) :: rest) = .ok (char, rest) :=
      readUnicodeEscape_control control rest
    exact readStringFrom_backslash unicode done
  · rw [printed, List.singleton_append, readStringFrom]
    simp only [notQuote, notBackslash, plain, if_false]

theorem readStringFrom_escaped (chars done rest : List Char) :
    readStringFrom done (chars.flatMap escape ++ '"' :: rest) =
      .ok (done.reverse ++ chars, rest) := by
  induction chars generalizing done with
  | nil => simp [readStringFrom]
  | cons char more ih =>
      rw [List.flatMap_cons, List.append_assoc, readStringFrom_escape, ih]
      simp

/-- A printed string, its opening quote consumed, reads back with all its characters. -/
theorem readString_escaped (text : String) (rest : List Char) :
    readString (text.toList.flatMap escape ++ '"' :: rest) = .ok (text, rest) := by
  simp [readString, readStringFrom_escaped]

/-! ## Integers -/

/-- What may follow a printed number: nothing that would make it longer. -/
def EndsNumber (rest : List Char) : Prop :=
  ∀ char ∈ rest.head?, Text.isDigit char = false ∧ char ≠ '.' ∧ char ≠ 'e' ∧ char ≠ 'E'

theorem endsNumber_nil : EndsNumber [] := by
  simp [EndsNumber]

theorem endsNumber_cons {char : Char} (rest : List Char)
    (other : Text.isDigit char = false ∧ char ≠ '.' ∧ char ≠ 'e' ∧ char ≠ 'E') :
    EndsNumber (char :: rest) := by
  simpa [EndsNumber] using other

theorem takeWhile_digits {digits rest : List Char}
    (all : ∀ char ∈ digits, Text.isDigit char = true) (ends : EndsNumber rest) :
    (digits ++ rest).takeWhile Text.isDigit = digits := by
  rw [List.takeWhile_append_of_pos all]
  cases rest with
  | nil => simp
  | cons char more => simp [(ends char rfl).1]

theorem dropWhile_digits {digits rest : List Char}
    (all : ∀ char ∈ digits, Text.isDigit char = true) (ends : EndsNumber rest) :
    (digits ++ rest).dropWhile Text.isDigit = rest := by
  rw [List.dropWhile_append_of_pos all]
  cases rest with
  | nil => rfl
  | cons char more => simp [(ends char rfl).1]

/-- Digits only ever make a number longer. -/
theorem le_extended (value : Nat) (digits : List Char) :
    value ≤ digits.foldl (fun value char => value * 10 + Text.digitValue char) value := by
  induction digits generalizing value with
  | nil => exact Nat.le_refl value
  | cons digit rest ih =>
      have step := ih (value * 10 + Text.digitValue digit)
      simp only [List.foldl_cons]
      omega

theorem absorb_of_le {limit value : Nat} {digits : List Char}
    (within : digits.foldl (fun value char => value * 10 + Text.digitValue char) value ≤ limit) :
    absorb limit value digits =
      (digits.foldl (fun value char => value * 10 + Text.digitValue char) value, []) := by
  induction digits generalizing value with
  | nil => rfl
  | cons digit rest ih =>
      have longer := le_extended (value * 10 + Text.digitValue digit) rest
      rw [List.foldl_cons] at within ⊢
      rw [absorb, if_pos (by omega)]
      exact ih within

theorem absorb_digits {number limit : Nat} (within : number ≤ limit) :
    absorb limit 0 (Text.digits number) = (number, []) := by
  have value := Text.ofDigits_digits number
  rw [Text.ofDigits] at value
  rw [absorb_of_le (by omega), value]

theorem absorb_le {limit value : Nat} (digits : List Char) (within : value ≤ limit) :
    (absorb limit value digits).1 ≤ limit := by
  induction digits generalizing value with
  | nil => exact within
  | cons digit rest ih =>
      unfold absorb
      dsimp only
      split
      · rename_i more
        exact ih more
      · exact within

/-- The first digit of a positive number is no zero. -/
theorem digits_head_ne_zero {number : Nat} (positive : 0 < number) {first : Char}
    {rest : List Char} (shape : Text.digits number = first :: rest) : first ≠ '0' := by
  induction number using Text.digits.induct generalizing first rest with
  | case1 number small =>
      rw [Text.digits, if_pos small] at shape
      simp only [List.cons.injEq] at shape
      rintro rfl
      have value := Text.toNat_digitChar small
      rw [shape.1] at value
      have : ('0' : Char).toNat = 48 := by decide
      omega
  | case2 number large ih =>
      rw [Text.digits, if_neg large] at shape
      cases inner : Text.digits (number / 10) with
      | nil => exact absurd inner (Text.digits_ne_nil _)
      | cons head tail =>
          rw [inner, List.cons_append, List.cons.injEq] at shape
          rw [← shape.1]
          exact ih (by omega) inner

theorem readNumberTail_of_ends (negative : Bool) (significand : Nat) {rest : List Char}
    (ends : EndsNumber rest) :
    readNumberTail negative significand 0 rest = .ok (integer negative significand, rest) := by
  unfold readNumberTail
  split
  · exact absurd rfl (ends '.' rfl).2.1
  · exact absurd rfl (ends 'e' rfl).2.2.1
  · exact absurd rfl (ends 'E' rfl).2.2.2
  · rw [if_pos rfl]

/-- The digits of a number that fits 64 bits are read as that number. -/
theorem readNumber_digits (negative : Bool) {number : Nat} (within : number ≤ greatestUnsigned)
    {rest : List Char} (ends : EndsNumber rest) :
    readNumber negative (Text.digits number ++ rest) =
      .ok (integer negative number, rest) := by
  cases shape : Text.digits number with
  | nil => exact absurd shape (Text.digits_ne_nil number)
  | cons first more =>
      have all := Text.digits_isDigit number
      unfold readNumber
      rw [List.cons_append]
      dsimp only
      by_cases zero : number = 0
      · subst zero
        have single : Text.digits 0 = ['0'] := by rw [Text.digits]; rfl
        rw [single, List.cons.injEq] at shape
        obtain ⟨rfl, rfl⟩ := shape
        rw [if_pos rfl, List.nil_append]
        cases rest with
        | nil => exact readNumberTail_of_ends negative 0 ends
        | cons next after =>
            simp only [(ends next rfl).1, Bool.false_eq_true, if_false]
            exact readNumberTail_of_ends negative 0 ends
      · have nonzero := digits_head_ne_zero (Nat.pos_of_ne_zero zero) shape
        have digit : Text.isDigit first = true := all first (by simp [shape])
        rw [if_neg nonzero, if_pos digit, ← List.cons_append, ← shape,
          takeWhile_digits all ends, dropWhile_digits all ends, absorb_digits within]
        exact readNumberTail_of_ends negative number ends

theorem readNumber_intChars_of_nonneg {value : Int} (nonneg : 0 ≤ value)
    (upper : value ≤ greatestUnsigned) {rest : List Char} (ends : EndsNumber rest) :
    readNumber false (Text.digits value.natAbs ++ rest) = .ok (.int value, rest) := by
  rw [readNumber_digits false (by omega) ends]
  simp only [integer, Bool.not_false, if_true]
  rw [Int.natAbs_of_nonneg nonneg]

theorem readNumber_intChars_of_neg {value : Int} (negative : value < 0)
    (lower : leastSigned ≤ value) {rest : List Char} (ends : EndsNumber rest) :
    readNumber true (Text.digits value.natAbs ++ rest) = .ok (.int value, rest) := by
  have bound : value.natAbs ≤ leastSigned.natAbs := by
    unfold leastSigned at *
    omega
  have word : value.natAbs ≤ greatestUnsigned :=
    Nat.le_trans bound (by decide)
  have restored : -(value.natAbs : Int) = value := by omega
  rw [readNumber_digits true word ends]
  simp only [integer, Bool.not_true, Bool.false_eq_true, if_false]
  rw [if_pos ⟨by omega, bound⟩, restored]

/-! ## Words of 64 bits -/

/-- The integers that a reader leaves as integers. -/
def IsWord (value : Int) : Prop :=
  leastSigned ≤ value ∧ value ≤ greatestUnsigned

instance (value : Int) : Decidable (IsWord value) :=
  inferInstanceAs (Decidable (_ ∧ _))

theorem isWord_of_integer {negative : Bool} {magnitude : Nat} {value : Int}
    (within : magnitude ≤ greatestUnsigned) (made : integer negative magnitude = .int value) :
    IsWord value := by
  rw [integer] at made
  split at made
  · cases made
    exact ⟨by unfold leastSigned; omega, by omega⟩
  · split at made
    · rename_i bounds
      cases made
      unfold IsWord leastSigned at *
      omega
    · contradiction

theorem not_int_of_realNumber {negative : Bool} {significand : Nat} {exponent value : Int}
    {text rest : List Char}
    (read : realNumber negative significand exponent text = .ok (.int value, rest)) : False := by
  rw [realNumber] at read
  split at read
  · simp at read
  · simp [failAt] at read

theorem not_int_of_readExponent {negative : Bool} {significand : Nat} {start value : Int}
    {text rest : List Char}
    (read : readExponent negative significand start text = .ok (.int value, rest)) : False := by
  rw [readExponent] at read
  dsimp only at read
  split at read
  · simp [failAt] at read
  · split at read
    · simp [failNext] at read
    · split at read
      · exact not_int_of_realNumber read
      · split at read
        · simp [failAt] at read
        · simp at read

theorem not_int_of_readFraction {negative : Bool} {significand : Nat} {start value : Int}
    {text rest : List Char}
    (read : readFraction negative significand start text = .ok (.int value, rest)) : False := by
  rw [readFraction] at read
  dsimp only at read
  split at read
  · split at read <;> simp [failNext] at read
  · split at read
    · exact not_int_of_readExponent read
    · exact not_int_of_readExponent read
    · exact not_int_of_realNumber read

theorem isWord_of_readNumberTail {negative : Bool} {significand leftOut : Nat} {value : Int}
    {text rest : List Char} (within : significand ≤ greatestUnsigned)
    (read : readNumberTail negative significand leftOut text = .ok (.int value, rest)) :
    IsWord value := by
  unfold readNumberTail at read
  split at read
  · exact (not_int_of_readFraction read).elim
  · exact (not_int_of_readExponent read).elim
  · exact (not_int_of_readExponent read).elim
  · split at read
    · simp only [Except.ok.injEq, Prod.mk.injEq] at read
      exact isWord_of_integer within read.1
    · exact (not_int_of_realNumber read).elim

/-- An integer is only read as one if it is a word of 64 bits. -/
theorem isWord_of_readNumber {negative : Bool} {value : Int} {text rest : List Char}
    (read : readNumber negative text = .ok (.int value, rest)) : IsWord value := by
  unfold readNumber at read
  split at read
  · simp [failAt] at read
  · split at read
    · split at read
      · exact isWord_of_readNumberTail (Nat.zero_le _) read
      · split at read
        · simp [failNext] at read
        · exact isWord_of_readNumberTail (Nat.zero_le _) read
    · split at read
      · exact isWord_of_readNumberTail (absorb_le _ (Nat.zero_le _)) read
      · simp [failNext] at read

end PillarLookup.Json
