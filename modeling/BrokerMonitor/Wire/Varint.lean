/-!
# Numbers of variable length

A number is written in groups of seven bits, lowest first; every octet but the last has its top bit
set. A reader takes at most ten octets and refuses what does not fit in 64 bits.
-/

namespace BrokerMonitor.Wire.Varint

/-- The octets of a number. -/
def write (n : Nat) : List UInt8 :=
  if n < 128 then [UInt8.ofNat n] else UInt8.ofNat (n % 128 + 128) :: write (n / 128)

/-- Reads groups of seven bits, at most `left` of them. -/
def readGroups : (left : Nat) → List UInt8 → Option (Nat × List UInt8)
  | 0, _ => none
  | _ + 1, [] => none
  | left + 1, b :: rest =>
    if b < 128 then some (b.toNat, rest)
    else (readGroups left rest).map fun (n, rest) => (b.toNat - 128 + 128 * n, rest)

/-- The most octets that a number has. -/
def maxLength : Nat := 10

/-- Reads a number, and gives it with the octets after it. -/
def read? (octets : List UInt8) : Option (Nat × List UInt8) :=
  (readGroups maxLength octets).filter fun (n, _) => n < UInt64.size

example : write 300 = [0xac, 0x02] := by decide +kernel

example : read? [0xac, 0x02, 7] = some (300, [7]) := by decide +kernel

example : read? (List.replicate 9 0xff ++ [1]) = some (UInt64.size - 1, []) := by decide +kernel

example : read? (List.replicate 9 0xff ++ [2]) = none := by decide +kernel

theorem length_readGroups {left n : Nat} {octets rest : List UInt8}
    (h : readGroups left octets = some (n, rest)) : rest.length < octets.length := by
  induction left generalizing octets n rest with
  | zero => simp [readGroups] at h
  | succ left ih =>
    cases octets with
    | nil => simp [readGroups] at h
    | cons b tail =>
      simp only [readGroups] at h
      split at h
      · cases h; simp
      · simp only [Option.map_eq_some_iff] at h
        obtain ⟨⟨k, after⟩, hk, he⟩ := h
        cases he
        have := ih hk
        simp only [List.length_cons]
        omega

/-- Reading takes at least one octet. -/
theorem length_of_read? {n : Nat} {octets rest : List UInt8} (h : read? octets = some (n, rest)) :
    rest.length < octets.length :=
  length_readGroups (Option.filter_eq_some_iff.1 h).1

end BrokerMonitor.Wire.Varint
