/-!
# Tables of code points

A Unicode property or mapping is written down as a table of runs: code points that follow one
another at a fixed distance.
-/

namespace InterfaceGen.Text

/-- The code points `first`, `first + step`, … up to `last`. -/
structure Run where
  first : Nat
  last : Nat
  step : Nat
  deriving DecidableEq, Repr

namespace Run

/-- Whether a code point is one of the run. -/
def contains (run : Run) (code : Nat) : Bool :=
  run.first ≤ code && code ≤ run.last && (code - run.first) % run.step == 0

end Run

/-- Whether some run of a table holds the character. -/
def listed (table : List Run) (char : Char) : Bool :=
  table.any (·.contains char.toNat)

end InterfaceGen.Text
