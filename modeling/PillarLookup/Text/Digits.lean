/-!
# Decimal digits

Natural numbers as decimal digits, and the reading of digit runs.
-/

namespace PillarLookup.Text

def isDigit (char : Char) : Bool :=
  48 ≤ char.toNat && char.toNat ≤ 57

def digitValue (char : Char) : Nat :=
  char.toNat - 48

def digitChar (value : Nat) : Char :=
  Char.ofNat (48 + value)

/-- The digits of a number, most significant first, without leading zeros. -/
def digits (number : Nat) : List Char :=
  if number < 10 then [digitChar number]
  else digits (number / 10) ++ [digitChar (number % 10)]
termination_by number

def ofDigits (chars : List Char) : Nat :=
  chars.foldl (fun value char => value * 10 + digitValue char) 0

/-- A run of at least one digit and nothing else. -/
def isNumeral (chars : List Char) : Bool :=
  !chars.isEmpty && chars.all isDigit

def dropPlus : List Char → List Char
  | [] => []
  | char :: rest => if char = '+' then rest else char :: rest

/-- An optional plus sign and digits, at most `limit`. -/
def natural? (limit : Nat) (chars : List Char) : Option Nat :=
  let body := dropPlus chars
  if isNumeral body && ofDigits body ≤ limit then some (ofDigits body) else none

theorem toNat_digitChar {value : Nat} (small : value < 10) :
    (digitChar value).toNat = 48 + value := by
  have cases : ∀ value < 10, (digitChar value).toNat = 48 + value := by decide
  exact cases value small

theorem isDigit_digitChar {value : Nat} (small : value < 10) :
    isDigit (digitChar value) = true := by
  simp only [isDigit, toNat_digitChar small, Bool.and_eq_true, decide_eq_true_eq]
  omega

theorem digitValue_digitChar {value : Nat} (small : value < 10) :
    digitValue (digitChar value) = value := by
  simp [digitValue, toNat_digitChar small]

theorem digits_isDigit (number : Nat) : ∀ char ∈ digits number, isDigit char = true := by
  induction number using digits.induct with
  | case1 number small =>
      rw [digits, if_pos small]
      simp [isDigit_digitChar small]
  | case2 number large ih =>
      rw [digits, if_neg large]
      intro char member
      rcases List.mem_append.mp member with member | member
      · exact ih char member
      · rw [List.mem_singleton.mp member]
        exact isDigit_digitChar (Nat.mod_lt _ (by omega))

theorem digits_ne_nil (number : Nat) : digits number ≠ [] := by
  rw [digits]
  split <;> simp

theorem ofDigits_append_singleton (chars : List Char) (last : Char) :
    ofDigits (chars ++ [last]) = ofDigits chars * 10 + digitValue last := by
  simp [ofDigits]

theorem ofDigits_digits (number : Nat) : ofDigits (digits number) = number := by
  induction number using digits.induct with
  | case1 number small =>
      rw [digits, if_pos small]
      simp [ofDigits, digitValue_digitChar small]
  | case2 number large ih =>
      rw [digits, if_neg large, ofDigits_append_singleton, ih,
        digitValue_digitChar (Nat.mod_lt _ (by omega))]
      omega

theorem dropPlus_digits (number : Nat) : dropPlus (digits number) = digits number := by
  cases shape : digits number with
  | nil => rfl
  | cons char rest =>
      have digit := digits_isDigit number char (by simp [shape])
      have unsigned : char ≠ '+' := by
        rintro rfl
        exact absurd digit (by decide)
      simp [dropPlus, unsigned]

theorem natural?_digits {limit number : Nat} (within : number ≤ limit) :
    natural? limit (digits number) = some number := by
  have all : (digits number).all isDigit = true :=
    List.all_eq_true.mpr (digits_isDigit number)
  simp [natural?, isNumeral, dropPlus_digits, all, ofDigits_digits, digits_ne_nil, within]

end PillarLookup.Text
