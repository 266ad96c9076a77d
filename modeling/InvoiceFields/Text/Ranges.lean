/-!
# Sets of characters given by ranges

A character class of the Unicode standard is a list of ranges of code points, first and last
member of each, in ascending order. `inRanges` decides membership; `CaseRun` describes code
points at a regular distance and where they are sent.
-/

namespace InvoiceFields.Text

/-- Whether `n` lies in one of the ranges. The ranges ascend, so the search ends at the first
one that starts above `n`. -/
def inRanges : List (Nat × Nat) → Nat → Bool
  | [], _ => false
  | (first, last) :: rest, n => decide (first ≤ n) && (decide (n ≤ last) || inRanges rest n)

/-- The code points `first`, `first + step`, …, `last`, sent to `image`, `image + step`, …. -/
structure CaseRun where
  first : Nat
  last : Nat
  step : Nat
  image : Nat
deriving Repr, DecidableEq

/-- The image of `n` under a run that holds it. -/
def CaseRun.imageOf? (run : CaseRun) (n : Nat) : Option Nat :=
  if run.first ≤ n ∧ n ≤ run.last ∧ (n - run.first) % run.step = 0 then
    some (run.image + (n - run.first))
  else none

/-- The image of `n` under the first run that holds it. -/
def applyRuns (runs : List CaseRun) (n : Nat) : Option Nat :=
  runs.findSome? (·.imageOf? n)

end InvoiceFields.Text
