import BrokerMonitor.Proofs.Address.Texts
import BrokerMonitor.Url.Ipv4
import Mathlib.Tactic.Ring
/-!
# Addresses of four octets are read back

An address is written as four decimal numbers. They are read as decimal numbers, whatever radix the
address was first given in, and the address they are put together to is the same.
-/

namespace BrokerMonitor.Url.Ipv4

open Unicode.Table (cut)

variable (a : Ipv4)

/-- The octets, each as its digits. -/
def digits : List (List Char) := a.octets.map (Nat.toDigits 10)

theorem toList_text : a.text.toList = ['.'].intercalate a.digits := by
  rw [text, String.toList_intercalate, digits, List.map_map]
  simp [Function.comp_def]

theorem lt_of_mem_octets {n : Nat} (h : n ∈ a.octets) : n < 256 := by
  obtain ⟨place, -, rfl⟩ := List.mem_map.1 h
  exact Nat.mod_lt _ (by decide)

theorem isDigit_of_mem_digits {part : List Char} (h : part ∈ a.digits) {c : Char} (hc : c ∈ part) :
    c.isDigit = true := by
  obtain ⟨n, -, rfl⟩ := List.mem_map.1 h
  exact Nat.isDigit_of_mem_toDigits (by decide) (by decide) hc

/-- The text of an address has digits and points. -/
theorem isDigit_of_mem_text {c : Char} (h : c ∈ a.text.toList) : c.isDigit = true ∨ c = '.' := by
  rw [toList_text] at h
  rcases Text.mem_intercalate h with rfl | ⟨part, hpart, hc⟩
  · exact .inr rfl
  · exact .inl (a.isDigit_of_mem_digits hpart hc)

theorem cut_text : cut '.' a.text.toList = a.digits := by
  rw [toList_text]
  refine Unicode.Table.cut_intercalate (fun part hpart hpoint => ?_) (by simp [digits, octets])
  exact absurd (a.isDigit_of_mem_digits hpart hpoint) (by decide)

theorem parts_text : parts a.text.toList = a.digits := by
  rw [parts, cut_text]
  simp [digits, octets]

/-- A decimal octet is read as what it says. -/
theorem readPart_toDigits {n : Nat} (h : n < 256) : readPart (Nat.toDigits 10 n) = .number n := by
  have hall : ∀ n < 256, readPart (Nat.toDigits 10 n) = .number n := by decide +kernel
  exact hall n h

theorem endsInNumber_text : endsInNumber a.text.toList = true := by
  have hlast : ∀ part ∈ a.digits, part ≠ [] ∧ part.all Char.isDigit = true := by
    intro part hpart
    refine ⟨?_, List.all_eq_true.2 fun c hc => a.isDigit_of_mem_digits hpart hc⟩
    obtain ⟨n, -, rfl⟩ := List.mem_map.1 hpart
    exact Nat.toDigits_ne_nil
  rw [endsInNumber, parts_text]
  cases hreverse : a.digits.reverse with
  | nil => simp [digits, octets] at hreverse
  | cons last front =>
      obtain ⟨hne, hall⟩ := hlast last (List.mem_reverse.1 (hreverse ▸ List.mem_cons_self))
      simp [hne, hall]

/-- The octets are the places of the number in base 256. -/
theorem foldl_octets : a.octets.foldl (fun n octet => n * 256 + octet) 0 = a.bits.toNat := by
  have hlt : a.bits.toNat < 4294967296 := a.bits.toNat_lt
  simp only [octets, List.map_cons, List.map_nil, List.foldl_cons, List.foldl_nil,
    Nat.shiftRight_eq_div_pow]
  omega

theorem ofName?_text : ofName? a.text.toList = some a := by
  have hnumbers : a.digits.mapM (fun part => (readPart part).number?) = some a.octets := by
    rw [Text.mapM_eq_some_iff, digits, List.map_map]
    refine List.map_congr_left fun n hn => ?_
    simp only [Function.comp_apply, readPart_toDigits (a.lt_of_mem_octets hn), Part.number?]
  have hbits := a.foldl_octets
  have hlt := fun n => @lt_of_mem_octets a n
  obtain ⟨first, second, third, fourth, hoctets⟩ :
      ∃ first second third fourth, a.octets = [first, second, third, fourth] := ⟨_, _, _, _, rfl⟩
  rw [hoctets] at hbits hlt
  rw [ofName?, parts_text, hnumbers, hoctets]
  simp only [List.mem_cons, List.not_mem_nil, or_false, forall_eq_or_imp, forall_eq] at hlt
  have hvalue : UInt32.ofNat
      ((((0 * 256 + first) * 256 + second) * 256 + third) * 256 + fourth) = a.bits := by
    rw [← UInt32.ofNat_toNat (x := a.bits), ← hbits]
    rfl
  have ha : a = ⟨a.bits⟩ := rfl
  rw [ha, ← hvalue]
  simp [hlt]

end BrokerMonitor.Url.Ipv4
