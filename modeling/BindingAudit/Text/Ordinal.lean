/-
# English ordinals

Arguments are counted in messages by their English ordinal: `1st`, `2nd`, `3rd`, `4th`, with
the teens taking `th`.
-/

namespace BindingAudit.Text

/-- The ending of the ordinal of a positive number: the last two digits decide. -/
def ordinalEnding (n : Nat) : String :=
  if 11 ≤ n % 100 ∧ n % 100 ≤ 13 then "th"
  else match n % 10 with
    | 1 => "st"
    | 2 => "nd"
    | 3 => "rd"
    | _ => "th"

/-- A number as an English ordinal. Zero counts nothing and stays bare. -/
def ordinal (n : Nat) : String :=
  if n = 0 then "0" else toString n ++ ordinalEnding n

end BindingAudit.Text
