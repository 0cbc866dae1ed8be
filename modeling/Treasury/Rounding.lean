/-!
# Rounding quotients

The one rule of rounding that amounts and binary numbers share.
-/

namespace Treasury

/-- The whole number nearest to `n / d`, a half going to the even neighbour. -/
def divHalfEven (n d : Nat) : Nat :=
  let q := n / d
  let r := n % d
  if 2 * r < d ∨ (2 * r = d ∧ q % 2 = 0) then q else q + 1

end Treasury
