/-!
# Sets of characters given by code point ranges

A Unicode property is a set of code points. Its tables list the set as inclusive
ranges, and membership is a walk along them.
-/

namespace LinkReport.Text

/-- A set of code points, as inclusive ranges `(first, last)`. -/
abbrev Ranges := List (Nat × Nat)

/-- The code point of `c` lies in one of the ranges. -/
def Ranges.contains (rs : Ranges) (c : Char) : Bool :=
  rs.any fun r => r.1 ≤ c.toNat && c.toNat ≤ r.2

theorem Ranges.contains_iff {rs : Ranges} {c : Char} :
    rs.contains c = true ↔ ∃ r ∈ rs, r.1 ≤ c.toNat ∧ c.toNat ≤ r.2 := by
  simp [Ranges.contains]

end LinkReport.Text
