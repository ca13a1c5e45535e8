/-
Character classes as sorted ranges of code points.
-/
namespace Reckon.Text

/-- Inclusive ranges of code points. -/
abbrev Ranges := List (Nat × Nat)

/-- A code point lies in one of the ranges. -/
def Ranges.has (rs : Ranges) (n : Nat) : Bool :=
  rs.any fun r => r.1 ≤ n && n ≤ r.2

@[simp] theorem Ranges.has_nil (n : Nat) : Ranges.has [] n = false := rfl

@[simp] theorem Ranges.has_cons (r : Nat × Nat) (rs : Ranges) (n : Nat) :
    Ranges.has (r :: rs) n = ((r.1 ≤ n && n ≤ r.2) || rs.has n) := rfl

end Reckon.Text
