/-!
# Powers of two and ten

The powers that number formats are made of, written so that they mean the same wherever they are read.
-/

namespace Stencil.Decimal

/-- A power of two. -/
def twoTo (n : Nat) : Nat := Nat.pow 2 n

/-- A power of ten. -/
def tenTo (n : Nat) : Nat := Nat.pow 10 n

end Stencil.Decimal
