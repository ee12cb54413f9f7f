/-!
# Splitting at separators

A text with `n` separators has `n + 1` parts, some of which may be empty.
-/

namespace PillarLookup.Text

def splitAt (isSeparator : Char → Bool) : List Char → List (List Char)
  | [] => [[]]
  | char :: rest =>
      if isSeparator char then [] :: splitAt isSeparator rest
      else
        match splitAt isSeparator rest with
        | [] => [[char]]
        | part :: more => (char :: part) :: more

theorem splitAt_ne_nil (isSeparator : Char → Bool) (chars : List Char) :
    splitAt isSeparator chars ≠ [] := by
  cases chars with
  | nil => simp [splitAt]
  | cons char rest =>
      unfold splitAt
      split
      · simp
      · split <;> simp

theorem splitAt_separator_cons {isSeparator : Char → Bool} {char : Char}
    (separates : isSeparator char = true) (rest : List Char) :
    splitAt isSeparator (char :: rest) = [] :: splitAt isSeparator rest := by
  simp [splitAt, separates]

/-- No separator is left in a part. -/
theorem not_isSeparator_of_mem_splitAt (isSeparator : Char → Bool) (chars : List Char) :
    ∀ part ∈ splitAt isSeparator chars, ∀ char ∈ part, isSeparator char = false := by
  induction chars with
  | nil => simp [splitAt]
  | cons first rest ih =>
      unfold splitAt
      split
      · intro part member
        rcases List.mem_cons.mp member with rfl | later
        · simp
        · exact ih part later
      · rename_i plain
        split
        · rename_i empty
          exact absurd empty (splitAt_ne_nil _ _)
        · rename_i head more shape
          rw [shape] at ih
          intro part member
          rcases List.mem_cons.mp member with rfl | later
          · intro char found
            rcases List.mem_cons.mp found with rfl | inside
            · simpa using plain
            · exact ih head List.mem_cons_self char inside
          · exact ih part (List.mem_cons_of_mem _ later)

end PillarLookup.Text
