/-!
# Words

Powers of two, and the bounds of the integers that fit into so many bits.
-/

namespace Pagewise

/-- The power of two with an exponent. -/
def twoTo (exponent : Nat) : Nat := Nat.pow 2 exponent

/-- The greatest natural number of so many bits. -/
def maxUnsigned (bits : Nat) : Nat := twoTo bits - 1

/-- The greatest integer of so many bits, one of which is its sign. -/
def maxSigned (bits : Nat) : Int := (twoTo (bits - 1) : Int) - 1

/-- The least integer of so many bits, one of which is its sign. -/
def minSigned (bits : Nat) : Int := -(twoTo (bits - 1) : Int)

end Pagewise
