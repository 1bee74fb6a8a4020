/-!
# Powers of the bases

Floating-point numbers scale by powers of two, and decimals by powers of ten.
-/

namespace BrokerMonitor

/-- Two to a power. -/
def twoTo (n : Nat) : Nat := Nat.pow 2 n

/-- Ten to a power. -/
def tenTo (n : Nat) : Nat := Nat.pow 10 n

@[simp] theorem twoTo_zero : twoTo 0 = 1 := rfl

@[simp] theorem tenTo_zero : tenTo 0 = 1 := rfl

end BrokerMonitor
