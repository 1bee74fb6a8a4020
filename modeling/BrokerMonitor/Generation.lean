/-!
# Generations

Every connect and every shutdown opens a new generation, and whatever carries an older one is
stale. A generation is a 64-bit number. Stepping past the largest one has no result, so that two
generations of one monitor are never confused by wrapping around.
-/

namespace BrokerMonitor

/-- The epoch of a connection. -/
structure Generation where
  number : UInt64
deriving DecidableEq, Repr, Inhabited

namespace Generation

/-- The epoch before any connect, when there is no handle. -/
def initial : Generation := ⟨0⟩

/-- The generation as a natural number, the view that its laws are stated in. -/
def toNat (g : Generation) : Nat := g.number.toNat

instance : LT Generation := ⟨fun a b => a.toNat < b.toNat⟩
instance : LE Generation := ⟨fun a b => a.toNat ≤ b.toNat⟩
instance (a b : Generation) : Decidable (a < b) := inferInstanceAs (Decidable (a.toNat < b.toNat))
instance (a b : Generation) : Decidable (a ≤ b) := inferInstanceAs (Decidable (a.toNat ≤ b.toNat))

/-- The generation `steps` after this one, if it is still a 64-bit number. -/
def advance? (g : Generation) (steps : Nat) : Option Generation :=
  if g.toNat + steps < UInt64.size then some ⟨UInt64.ofNat (g.toNat + steps)⟩ else none

/-- The generation that the next connect or shutdown opens; the largest one has no successor. -/
def next? (g : Generation) : Option Generation := g.advance? 1

/-- How two generations compare, by age. -/
def order (a b : Generation) : Ordering := compare a.toNat b.toNat

/-- The form shown to people: a number sign and the number. -/
def label (g : Generation) : String := "#" ++ Nat.repr g.toNat

@[simp] theorem toNat_initial : initial.toNat = 0 := rfl

theorem toNat_injective {a b : Generation} (h : a.toNat = b.toNat) : a = b := by
  cases a; cases b
  simpa [toNat, UInt64.toNat_inj] using h

theorem toNat_of_advance? {g h : Generation} {steps : Nat} (e : g.advance? steps = some h) :
    h.toNat = g.toNat + steps := by
  unfold advance? at e
  split at e
  · rename_i bound
    cases e
    exact UInt64.toNat_ofNat_of_lt' bound
  · cases e

theorem toNat_of_next? {g h : Generation} (e : g.next? = some h) : h.toNat = g.toNat + 1 :=
  toNat_of_advance? e

end Generation

end BrokerMonitor
