/-!
Integers of a fixed width in binary digits.
-/
namespace Engagements.Width

/-- How many numbers have so many binary digits. -/
def size (bits : Nat) : Nat := Nat.pow 2 bits

def isUnsigned (bits : Nat) (n : Int) : Bool := 0 ≤ n && n < size bits

/-- One digit of a signed number is its sign. -/
def isSigned (bits : Nat) (n : Int) : Bool := -(size (bits - 1) : Int) ≤ n && n < size (bits - 1)

end Engagements.Width
