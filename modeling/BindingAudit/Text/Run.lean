/-
# Runs of code points

A table of a character property is a list of runs: every `step`-th code point from `first` to
`last`. Runs with step two describe the stretches where capital and small letters alternate.
-/

namespace BindingAudit.Text

/-- Every `step`-th code point from `first` up to and including `last`. -/
structure Run where
  first : Nat
  last : Nat
  step : Nat

/-- Whether a code point lies on the run. -/
def Run.contains (r : Run) (n : Nat) : Bool :=
  r.first ≤ n && n ≤ r.last && (n - r.first) % r.step == 0

/-- Whether a code point lies on some run of a table. -/
def Run.anyContains (table : List Run) (n : Nat) : Bool :=
  table.any (·.contains n)

end BindingAudit.Text
