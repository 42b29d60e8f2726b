/-
**Stretches of code points**, the form in which the tables of Unicode properties are kept.

* `Span`: every code point between two ends.
* `Run`: a stretch of letters carried to another stretch in the same order.
-/

namespace Skirmish.Text

/-- The code points from `first` to `last`. -/
structure Span where
  first : Nat
  last : Nat
deriving DecidableEq, Repr

/-- The span holds a code point. -/
def Span.holds (span : Span) (code : Nat) : Bool :=
  span.first ≤ code && code ≤ span.last

/-- Every `stride`-th code point from `first` to `last`, carried to a stretch of the same shape
that starts at `target`. -/
structure Run where
  first : Nat
  last : Nat
  stride : Nat
  target : Nat
deriving DecidableEq, Repr

namespace Run

/-- Where a run carries a code point of its source. -/
def image? (run : Run) (code : Nat) : Option Nat :=
  if run.first ≤ code ∧ code ≤ run.last ∧ (code - run.first) % run.stride = 0 then
    some (run.target + (code - run.first))
  else none

/-- Which source a run carries to a code point. -/
def source? (run : Run) (code : Nat) : Option Nat :=
  if run.target ≤ code ∧ run.first + (code - run.target) ≤ run.last
      ∧ (code - run.target) % run.stride = 0 then
    some (run.first + (code - run.target))
  else none

end Run

end Skirmish.Text
