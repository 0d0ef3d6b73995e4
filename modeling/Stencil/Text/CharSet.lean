/-!
# Sets of characters

A set is the list of its stretches of code points, lowest first. Membership is a plain search, so a
statement about one character is settled by evaluation.
-/

namespace Stencil

set_option autoImplicit false

/-- Each pair holds the first and the last code point of a stretch. -/
structure CharSet where
  stretches : List (Nat × Nat)

namespace CharSet

def contains (s : CharSet) (c : Char) : Bool :=
  s.stretches.any fun (low, high) => low ≤ c.toNat && c.toNat ≤ high

theorem contains_iff (s : CharSet) (c : Char) :
    s.contains c ↔ ∃ low high, (low, high) ∈ s.stretches ∧ low ≤ c.toNat ∧ c.toNat ≤ high := by
  simp [contains]

end CharSet

end Stencil
