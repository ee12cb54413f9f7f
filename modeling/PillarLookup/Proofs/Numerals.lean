import Mathlib.Data.List.Basic
import PillarLookup.Json.Printer
import PillarLookup.Text.Blank

/-!
# The characters of numbers

A number in decimal digits is written with digits, signs, a point and an exponent mark,
whatever its layout. All of them are visible characters of ASCII, and there is at least one.
-/

namespace PillarLookup

namespace Text

/-- A character of ASCII that leaves a mark: no control character, no blank. -/
def IsVisible (char : Char) : Prop :=
  0x20 < char.toNat ∧ char.toNat < 0x7F

instance (char : Char) : Decidable (IsVisible char) :=
  inferInstanceAs (Decidable (_ ∧ _))

/-- At least one character, and visible ones only. -/
def IsGraphic (chars : List Char) : Prop :=
  chars ≠ [] ∧ ∀ char ∈ chars, IsVisible char

instance (chars : List Char) : Decidable (IsGraphic chars) :=
  decidable_of_iff (chars ≠ [] ∧ chars.all (fun char => decide (IsVisible char)) = true)
    (by simp [IsGraphic])

theorem isVisible_of_isDigit {char : Char} (digit : isDigit char = true) : IsVisible char := by
  simp only [isDigit, Bool.and_eq_true, decide_eq_true_eq] at digit
  unfold IsVisible
  omega

theorem isGraphic_singleton {char : Char} (visible : IsVisible char) : IsGraphic [char] := by
  simpa [IsGraphic] using visible

theorem IsGraphic.append {first : List Char} (graphic : IsGraphic first) {second : List Char}
    (visible : ∀ char ∈ second, IsVisible char) : IsGraphic (first ++ second) := by
  refine ⟨by simp [graphic.1], ?_⟩
  rw [List.forall_mem_append]
  exact ⟨graphic.2, visible⟩

theorem IsGraphic.cons {char : Char} (visible : IsVisible char) {rest : List Char}
    (others : ∀ char ∈ rest, IsVisible char) : IsGraphic (char :: rest) :=
  (isGraphic_singleton visible).append others

theorem isGraphic_digits (number : Nat) : IsGraphic (digits number) := by
  refine ⟨digits_ne_nil number, ?_⟩
  intro char member
  exact isVisible_of_isDigit (digits_isDigit number char member)

/-- No visible character is a blank. -/
theorem IsVisible.not_isBlank {char : Char} (visible : IsVisible char) : isBlank char = false := by
  unfold IsVisible at visible
  simp only [isBlank, blankRanges, List.any_cons, List.any_nil, Bool.or_false,
    Bool.or_eq_false_iff, Bool.and_eq_false_iff, decide_eq_false_iff_not]
  omega

end Text

open Text

theorem Json.isGraphic_intChars (value : Int) : IsGraphic (intChars value) := by
  rw [intChars]
  split
  · exact .cons (by decide) (isGraphic_digits value.natAbs).2
  · exact isGraphic_digits value.natAbs

namespace Binary64

variable {digits : List Char}

theorem visible_zeros (count : Nat) : ∀ char ∈ zeros count, IsVisible char := by
  intro char member
  rw [List.eq_of_mem_replicate member]
  decide

theorem isGraphic_positional (graphic : IsGraphic digits) (point : Int) :
    IsGraphic (positional digits point) := by
  rw [positional]
  split
  · have fraction : ∀ char ∈ '.' :: (zeros (-point).toNat ++ digits), IsVisible char := by
      rw [List.forall_mem_cons, List.forall_mem_append]
      exact ⟨by decide, visible_zeros _, graphic.2⟩
    exact .cons (by decide) fraction
  · dsimp only
    split
    · rw [List.append_assoc]
      have tail : IsGraphic ['.', '0'] := by decide
      refine graphic.append ?_
      rw [List.forall_mem_append]
      exact ⟨visible_zeros _, tail.2⟩
    · have point : IsVisible '.' := by decide
      refine ⟨by simp, ?_⟩
      rw [List.forall_mem_append, List.forall_mem_cons]
      exact ⟨fun char member => graphic.2 char (List.mem_of_mem_take member), point,
        fun char member => graphic.2 char (List.mem_of_mem_drop member)⟩

theorem visible_exponentChars (layout : Layout) (exponent : Int) :
    ∀ char ∈ layout.exponentChars exponent, IsVisible char := by
  have digits := isGraphic_digits exponent.natAbs
  rw [Layout.exponentChars]
  split
  · exact (IsGraphic.cons (by decide) digits.2).2
  · split
    · exact (IsGraphic.cons (by decide) digits.2).2
    · exact digits.2

theorem isGraphic_scientific (layout : Layout) (graphic : IsGraphic digits) (exponent : Int) :
    IsGraphic (scientific layout digits exponent) := by
  have power : ∀ char ∈ 'e' :: layout.exponentChars exponent, IsVisible char :=
    (IsGraphic.cons (by decide) (visible_exponentChars layout exponent)).2
  unfold scientific
  dsimp only
  split
  · rename_i first second rest
    have each := graphic.2
    rw [List.forall_mem_cons] at each
    refine IsGraphic.append (.cons each.1 ?_) power
    rw [List.forall_mem_cons]
    exact ⟨by decide, each.2⟩
  · exact graphic.append power

theorem isGraphic_decimalChars (layout : Layout) (decimal : Decimal) :
    IsGraphic (layout.decimalChars decimal) := by
  have graphic := isGraphic_digits decimal.digits
  rw [Layout.decimalChars]
  split
  · decide
  · dsimp only
    split
    · exact isGraphic_positional graphic _
    · exact isGraphic_scientific layout graphic _

theorem Layout.isGraphic_chars (layout : Layout) (number : Binary64) :
    IsGraphic (layout.chars number) := by
  have magnitude := isGraphic_decimalChars layout number.shortest
  rw [Layout.chars]
  split
  · exact .cons (by decide) magnitude.2
  · exact magnitude

end Binary64

end PillarLookup
