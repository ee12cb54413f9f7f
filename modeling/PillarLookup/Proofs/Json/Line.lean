import PillarLookup.Proofs.Json.Lexeme
import PillarLookup.Proofs.Numerals

/-!
# One line of text

Compact text has no control character in it, and so no line break, whatever the strings and
the keys of the value hold: the printer escapes every control character, and its own marks
are visible. The induction is on the value, a list following from its items and an object
from the values of its members.
-/

namespace PillarLookup.Json

open Text (IsVisible)

/-- A property of all values: lists have it from their items, objects from their values. -/
theorem induct {P : Json → Prop} (null : P .null) (bool : ∀ value, P (.bool value))
    (int : ∀ value, P (.int value)) (real : ∀ value, P (.real value))
    (str : ∀ value, P (.str value))
    (arr : ∀ items, (∀ item ∈ items, P item) → P (.arr items))
    (obj : ∀ members : Members Json, (∀ entry ∈ members, P entry.2) → P (.obj members))
    (value : Json) : P value := by
  refine @Json.rec P (fun items => ∀ item ∈ items, P item)
    (fun members => ∀ entry ∈ members, P entry.2) (fun entry => P entry.2)
    null bool int real str arr obj (by simp) ?_ (by simp) ?_ (fun _ _ held => held) value
  · intro item rest first others
    exact List.forall_mem_cons.mpr ⟨first, others⟩
  · intro entry rest first others
    exact List.forall_mem_cons.mpr ⟨first, others⟩

/-- No line break and no other control character. -/
def OnOneLine (chars : List Char) : Prop :=
  ∀ char ∈ chars, 0x20 ≤ char.toNat

@[simp] theorem onOneLine_nil : OnOneLine [] := by
  simp [OnOneLine]

@[simp] theorem onOneLine_cons {char : Char} {rest : List Char} :
    OnOneLine (char :: rest) ↔ 0x20 ≤ char.toNat ∧ OnOneLine rest :=
  List.forall_mem_cons

@[simp] theorem onOneLine_append {first second : List Char} :
    OnOneLine (first ++ second) ↔ OnOneLine first ∧ OnOneLine second :=
  List.forall_mem_append

theorem onOneLine_of_isGraphic {chars : List Char} (graphic : Text.IsGraphic chars) :
    OnOneLine chars :=
  fun char member => Nat.le_of_lt (graphic.2 char member).1

/-- A line break is a control character. -/
theorem OnOneLine.newline_not_mem {chars : List Char} (line : OnOneLine chars) : '\n' ∉ chars := by
  intro member
  have code := line '\n' member
  revert code
  decide

/-- The letters behind a backslash are no control characters. -/
theorem le_of_shortEscape? {letter char : Char} (short : shortEscape? letter = some char) :
    0x20 ≤ letter.toNat := by
  by_contra control
  have other : ∀ mark : Char, 0x20 ≤ mark.toNat → letter ≠ mark := by
    rintro mark visible rfl
    exact control visible
  simp [shortEscape?, other] at short

theorem le_lowerHexDigit {value : Nat} (small : value < 16) :
    0x20 ≤ (lowerHexDigit value).toNat := by
  have cases : ∀ value < 16, 0x20 ≤ (lowerHexDigit value).toNat := by decide
  exact cases value small

theorem onOneLine_escape (char : Char) : OnOneLine (escape char) := by
  rcases escape_cases char with
    ⟨letter, short, printed⟩ | ⟨control, printed⟩ | ⟨-, -, plain, printed⟩
  · rw [printed]
    simp [le_of_shortEscape? short]
  · rw [printed]
    have high : 0x20 ≤ (lowerHexDigit (char.toNat / 16)).toNat := le_lowerHexDigit (by omega)
    have low : 0x20 ≤ (lowerHexDigit (char.toNat % 16)).toNat := le_lowerHexDigit (by omega)
    simp [high, low]
  · rw [printed]
    simpa using plain

theorem onOneLine_stringChars (text : String) : OnOneLine (stringChars text) := by
  have escaped : OnOneLine (text.toList.flatMap escape) := by
    intro char member
    obtain ⟨source, -, found⟩ := List.mem_flatMap.mp member
    exact onOneLine_escape source char found
  simp [stringChars, escaped]

/-! ## Values -/

theorem onOneLine_moreItemsChars {items : List Json}
    (each : ∀ item ∈ items, OnOneLine (chars item)) : OnOneLine (moreItemsChars items) := by
  induction items with
  | nil => simp [moreItemsChars]
  | cons item rest ih =>
      rw [List.forall_mem_cons] at each
      simp [moreItemsChars, each.1, ih each.2]

theorem onOneLine_itemsChars {items : List Json}
    (each : ∀ item ∈ items, OnOneLine (chars item)) : OnOneLine (itemsChars items) := by
  cases items with
  | nil => simp [itemsChars]
  | cons item rest =>
      rw [List.forall_mem_cons] at each
      simp [itemsChars, each.1, onOneLine_moreItemsChars each.2]

theorem onOneLine_moreMembersChars {members : Members Json}
    (each : ∀ entry ∈ members, OnOneLine (chars entry.2)) :
    OnOneLine (moreMembersChars members) := by
  induction members with
  | nil => simp [moreMembersChars]
  | cons entry rest ih =>
      rw [List.forall_mem_cons] at each
      simp [moreMembersChars, onOneLine_stringChars, each.1, ih each.2]

theorem onOneLine_membersChars {members : Members Json}
    (each : ∀ entry ∈ members, OnOneLine (chars entry.2)) : OnOneLine (membersChars members) := by
  cases members with
  | nil => simp [membersChars]
  | cons entry rest =>
      rw [List.forall_mem_cons] at each
      simp [membersChars, onOneLine_stringChars, each.1, onOneLine_moreMembersChars each.2]

/-- The compact text of any value is one line. -/
theorem onOneLine_chars (value : Json) : OnOneLine (chars value) := by
  induction value using induct with
  | null => simp [chars]
  | bool value => cases value <;> simp [chars]
  | int value =>
      rw [chars]
      exact onOneLine_of_isGraphic (isGraphic_intChars value)
  | real value =>
      rw [chars]
      exact onOneLine_of_isGraphic (numberLayout.isGraphic_chars value)
  | str value =>
      rw [chars]
      exact onOneLine_stringChars value
  | arr items each => simp [chars, onOneLine_itemsChars each]
  | obj members each => simp [chars, onOneLine_membersChars each]

end PillarLookup.Json
