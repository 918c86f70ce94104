/-!
# Powers

The powers that limits and units are made of.
-/

namespace DeviceLab.Decimal

def twoTo (n : Nat) : Nat := Nat.pow 2 n

def tenTo (n : Nat) : Nat := Nat.pow 10 n

end DeviceLab.Decimal
