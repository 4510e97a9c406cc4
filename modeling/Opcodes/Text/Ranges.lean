/-!
# Sets of code points as ranges

A character property that a table of the Unicode standard defines is kept here as a list of
closed ranges of code points, ascending and apart. This module holds the membership test and
the two checks on such a list (order and size); the tables themselves live in the modules named
for their property.

## Main definitions

* `Opcodes.Text.Ranges` — closed ranges of code points.
* `Opcodes.Text.Ranges.contains` — membership of a code point.
* `Opcodes.Text.Ranges.Ascending`, `Opcodes.Text.Ranges.count` — the checks on the data.
-/

namespace Opcodes.Text

/-- A set of code points, as closed ranges `(lo, hi)`. -/
abbrev Ranges := List (Nat × Nat)

namespace Ranges

/-- Whether the code point `n` lies in one of the ranges. -/
def contains (rs : Ranges) (n : Nat) : Bool :=
  rs.any fun r => r.1 ≤ n && n ≤ r.2

/-- The ranges are nonempty, in increasing order, and neither overlap nor touch. -/
def Ascending : Ranges → Prop
  | [] => True
  | [r] => r.1 ≤ r.2
  | r :: s :: t => r.1 ≤ r.2 ∧ r.2 + 1 < s.1 ∧ Ascending (s :: t)

instance : (rs : Ranges) → Decidable (Ascending rs)
  | [] => inferInstanceAs (Decidable True)
  | [r] => inferInstanceAs (Decidable (r.1 ≤ r.2))
  | r :: s :: t =>
    have : Decidable (Ascending (s :: t)) := instDecidableAscending (s :: t)
    inferInstanceAs (Decidable (r.1 ≤ r.2 ∧ r.2 + 1 < s.1 ∧ Ascending (s :: t)))

/-- The number of code points in the set. -/
def count (rs : Ranges) : Nat :=
  rs.foldr (fun r total => r.2 + 1 - r.1 + total) 0

/-- A code point is in the set exactly when one of the ranges holds it. -/
theorem contains_eq_true_iff {rs : Ranges} {n : Nat} :
    contains rs n = true ↔ ∃ r ∈ rs, r.1 ≤ n ∧ n ≤ r.2 := by
  simp [contains]

end Ranges

end Opcodes.Text
