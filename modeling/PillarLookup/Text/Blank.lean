/-!
# White space

The characters with the Unicode white-space property, and what the command leaves
out of a text: blanks at the end of a rendered document, control characters or
spaces around an address, and tabs and line breaks anywhere in it.
-/

namespace PillarLookup.Text

/-- The ranges of the white-space property, ends included. -/
def blankRanges : List (Nat × Nat) :=
  [(0x09, 0x0D), (0x20, 0x20), (0x85, 0x85), (0xA0, 0xA0), (0x1680, 0x1680),
    (0x2000, 0x200A), (0x2028, 0x2029), (0x202F, 0x202F), (0x205F, 0x205F),
    (0x3000, 0x3000)]

def isBlank (char : Char) : Bool :=
  blankRanges.any fun range => range.1 ≤ char.toNat && char.toNat ≤ range.2

/-- A control character of the first block, or a space. -/
def isControlOrSpace (char : Char) : Bool :=
  char.toNat ≤ 0x20

def isTabOrBreak (char : Char) : Bool :=
  char = '\t' || char = '\n' || char = '\r'

def withoutTabsAndBreaks (chars : List Char) : List Char :=
  chars.filter fun char => !isTabOrBreak char

def dropEndWhile (test : Char → Bool) (chars : List Char) : List Char :=
  (chars.reverse.dropWhile test).reverse

def trim (test : Char → Bool) (chars : List Char) : List Char :=
  dropEndWhile test (chars.dropWhile test)

theorem dropEndWhile_append_of_forall (test : Char → Bool) (chars tail : List Char)
    (all : ∀ char ∈ tail, test char = true) :
    dropEndWhile test (chars ++ tail) = dropEndWhile test chars := by
  have dropped : (tail.reverse ++ chars.reverse).dropWhile test =
      chars.reverse.dropWhile test := by
    rw [List.dropWhile_append_of_pos]
    intro char member
    exact all char (List.mem_reverse.mp member)
  simp [dropEndWhile, dropped]

theorem dropEndWhile_append_singleton (test : Char → Bool) (chars : List Char) (last : Char)
    (kept : test last = false) :
    dropEndWhile test (chars ++ [last]) = chars ++ [last] := by
  simp [dropEndWhile, kept]

theorem isBlank_of_isWhitespace (char : Char) (white : char.isWhitespace = true) :
    isBlank char = true := by
  simp only [Char.isWhitespace, Bool.or_eq_true, decide_eq_true_eq] at white
  rcases white with ((rfl | rfl) | rfl) | rfl <;> decide

end PillarLookup.Text
