/-!
Powers of two and of ten, and the ranges of whole numbers of 64 bits.
-/

namespace QueryOptions.Decimal

def twoTo (exponent : Nat) : Nat := Nat.pow 2 exponent

def tenTo (exponent : Nat) : Nat := Nat.pow 10 exponent

def greatestUnsigned : Nat := 0xFFFFFFFFFFFFFFFF

def greatestSigned : Int := 0x7FFFFFFFFFFFFFFF

def leastSigned : Int := -0x8000000000000000

end QueryOptions.Decimal
