/-!
# Scripts

Answers prepared in advance and given in turn; when they are used up the final
one is repeated.
-/

namespace PillarLookup

structure Script (α : Type) where
  turns : List α
  final : α
deriving Repr

namespace Script

variable {α : Type}

/-- Repeat the last answer, or `fallback` if there is none at all. -/
def ofList (fallback : α) (answers : List α) : Script α :=
  ⟨answers, answers.getLast?.getD fallback⟩

/-- The answer after `count` others. -/
def answer (script : Script α) (count : Nat) : α :=
  script.turns[count]?.getD script.final

theorem answer_of_lt (script : Script α) {count : Nat} (within : count < script.turns.length) :
    script.answer count = script.turns[count] := by
  simp [answer, within]

theorem answer_of_le (script : Script α) {count : Nat} (beyond : script.turns.length ≤ count) :
    script.answer count = script.final := by
  simp [answer, beyond]

end Script

end PillarLookup
