import PillarLookup.Text.Blank
import PillarLookup.Text.Digits

/-!
# Durations

Times are natural numbers of milliseconds. A duration is shown in the largest unit that it
fills, with as many decimals as it needs.
-/

namespace PillarLookup

namespace Duration

def seconds (count : Nat) : Nat :=
  count * 1000

/-- Three decimal digits without the zeros at their end. -/
def decimals (thousandths : Nat) : List Char :=
  Text.dropEndWhile (· = '0')
    [Text.digitChar (thousandths / 100 % 10), Text.digitChar (thousandths / 10 % 10),
      Text.digitChar (thousandths % 10)]

def chars (duration : Nat) : List Char :=
  if duration = 0 then ['0', 'n', 's']
  else if duration < 1000 then Text.digits duration ++ ['m', 's']
  else
    let fraction := decimals (duration % 1000)
    Text.digits (duration / 1000) ++ (if fraction.isEmpty then [] else '.' :: fraction) ++ ['s']

def text (duration : Nat) : String :=
  String.ofList (chars duration)

end Duration

end PillarLookup
