import BrokerMonitor.Wire.Varint
import Mathlib.Algebra.Order.Ring.Nat
/-!
# Numbers read back

Reading takes the octets of a number and none of those that follow. A number is written in as few
octets as any reading of it takes, and one of 64 bits in ten at most.
-/

namespace BrokerMonitor.Wire.Varint

theorem readGroups_write_of_lt {n : Nat} (hn : n < 128) (left : Nat) (rest : List UInt8) :
    readGroups (left + 1) (write n ++ rest) = some (n, rest) := by
  have hb : (UInt8.ofNat n).toNat = n := UInt8.toNat_ofNat_of_lt' (hn.trans (by decide))
  rw [write, if_pos hn, List.singleton_append, readGroups,
    if_pos (UInt8.lt_iff_toNat_lt.2 (by rwa [hb])), hb]

theorem readGroups_write_of_le {n : Nat} (hn : 128 ≤ n) (left : Nat) (rest : List UInt8) :
    readGroups (left + 1) (write n ++ rest) =
      (readGroups left (write (n / 128) ++ rest)).map
        fun (k, rest) => (n % 128 + 128 * k, rest) := by
  have hb : (UInt8.ofNat (n % 128 + 128)).toNat = n % 128 + 128 :=
    UInt8.toNat_ofNat_of_lt' (by rw [UInt8.size]; omega)
  have hcontinues : ¬ UInt8.ofNat (n % 128 + 128) < 128 := fun h => by
    have h := UInt8.lt_iff_toNat_lt.1 h
    rw [hb] at h
    exact absurd h (by simp)
  rw [write, if_neg (by omega), List.cons_append, readGroups, if_neg hcontinues, hb,
    Nat.add_sub_cancel]

/-- With so many groups allowed, a number is read back if it has no more of them. -/
theorem readGroups_write_append (left n : Nat) (rest : List UInt8) :
    readGroups (left + 1) (write n ++ rest) =
      if n < 128 ^ (left + 1) then some (n, rest) else none := by
  induction left generalizing n with
  | zero =>
      rcases lt_or_ge n 128 with hn | hn
      · rw [readGroups_write_of_lt hn, if_pos (by simpa)]
      · rw [readGroups_write_of_le hn, if_neg (by simpa)]
        rfl
  | succ left ih =>
      rcases lt_or_ge n 128 with hn | hn
      · rw [readGroups_write_of_lt hn, if_pos (hn.trans_le (Nat.le_self_pow (by omega) 128))]
      · have hpow : n / 128 < 128 ^ (left + 1) ↔ n < 128 ^ (left + 1 + 1) := by
          rw [Nat.div_lt_iff_lt_mul (by decide), ← Nat.pow_succ]
        rw [readGroups_write_of_le hn, ih (n / 128)]
        simp only [hpow]
        split <;> simp [Nat.mod_add_div]

/-- A number of 64 bits is read back, and a greater one is refused. -/
theorem read?_write_append (n : Nat) (rest : List UInt8) :
    read? (write n ++ rest) = if n < UInt64.size then some (n, rest) else none := by
  have hsize : UInt64.size ≤ 128 ^ (9 + 1) := by decide
  rw [read?, maxLength, readGroups_write_append 9 n rest]
  by_cases hn : n < UInt64.size
  · rw [if_pos (hn.trans_le hsize), if_pos hn]
    simp [Option.filter, hn]
  · rw [if_neg hn]
    split <;> simp [Option.filter, hn]

/-- No reading of a number takes fewer octets than it is written in. -/
theorem length_write_of_readGroups {left n : Nat} {octets rest : List UInt8}
    (h : readGroups left octets = some (n, rest)) :
    (write n).length + rest.length ≤ octets.length := by
  induction left generalizing octets n rest with
  | zero => simp [readGroups] at h
  | succ left ih =>
      cases octets with
      | nil => simp [readGroups] at h
      | cons b tail =>
          simp only [readGroups] at h
          split at h
          · rename_i hb
            cases h
            rw [write, if_pos (by simpa [UInt8.lt_iff_toNat_lt] using hb)]
            simp [Nat.add_comm]
          · obtain ⟨⟨k, after⟩, hk, he⟩ := Option.map_eq_some_iff.1 h
            cases he
            have hlen := ih hk
            have hb := b.toNat_lt
            rw [write]
            split
            · have := length_readGroups hk
              simp only [List.length_cons, List.length_nil]
              omega
            · have hdiv : (b.toNat - 128 + 128 * k) / 128 = k := by omega
              simp only [hdiv, List.length_cons]
              omega

theorem length_write_of_read? {n : Nat} {octets rest : List UInt8}
    (h : read? octets = some (n, rest)) : (write n).length + rest.length ≤ octets.length :=
  length_write_of_readGroups (Option.filter_eq_some_iff.1 h).1

theorem length_write_pos (n : Nat) : 0 < (write n).length := by
  rw [write]
  split <;> simp

theorem length_write_of_lt_pow {left n : Nat} (h : n < 128 ^ (left + 1)) :
    (write n).length ≤ left + 1 := by
  induction left generalizing n with
  | zero => simp [write, show n < 128 by simpa using h]
  | succ left ih =>
      rw [write]
      split
      · simp
      · have := ih (n := n / 128) (by rwa [Nat.div_lt_iff_lt_mul (by decide), ← Nat.pow_succ])
        simpa using this

theorem length_write_of_lt_size {n : Nat} (h : n < UInt64.size) : (write n).length ≤ maxLength :=
  length_write_of_lt_pow (h.trans_le (show UInt64.size ≤ 128 ^ (9 + 1) by decide))

end BrokerMonitor.Wire.Varint
