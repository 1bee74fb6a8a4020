import BrokerMonitor.Proofs.Address.Texts
import BrokerMonitor.Url.Percent
import Mathlib.Tactic.Ring
/-!
# Percent coding of what is coded

A coded text has no character left that its part of a URL codes, so that coding it again changes
nothing. A text without a percent sign is not changed by decoding.
-/

namespace BrokerMonitor

/-- A character that a URL in normal form may have. -/
def Text.isPrintable (c : Char) : Bool := 0x21 ≤ c.toNat && c.toNat ≤ 0x7E

namespace Url

/-! ## Coding -/

/-- A set of characters that coding does not use. -/
structure IsCodeSet (inSet : Char → Bool) : Prop where
  percent : inSet '%' = false
  hexDigit : ∀ n < 16, inSet (hexDigit n) = false

section Encode

variable {inSet : Char → Bool} {text : List Char} {c : Char}

/-- A character of a coded text stood there before, or is part of a code. -/
theorem mem_encode (hc : c ∈ encode inSet text) :
    (c ∈ text ∧ inSet c = false) ∨ c = '%' ∨ ∃ n < 16, c = hexDigit n := by
  obtain ⟨d, hd, hc⟩ := List.mem_flatMap.1 hc
  split at hc
  case isTrue =>
    obtain ⟨b, -, hc⟩ := List.mem_flatMap.1 hc
    have hb : b.toNat < 256 := b.toNat_lt
    simp only [encodeOctet, List.mem_cons, List.not_mem_nil, or_false] at hc
    rcases hc with rfl | rfl | rfl
    · exact .inr (.inl rfl)
    · exact .inr (.inr ⟨_, by omega, rfl⟩)
    · exact .inr (.inr ⟨_, by omega, rfl⟩)
  case isFalse hset =>
    obtain rfl := List.mem_singleton.1 hc
    exact .inl ⟨hd, by simpa using hset⟩

theorem IsCodeSet.of_mem_encode (h : IsCodeSet inSet) (hc : c ∈ encode inSet text) :
    inSet c = false := by
  rcases mem_encode hc with ⟨-, hc⟩ | rfl | ⟨n, hn, rfl⟩
  · exact hc
  · exact h.percent
  · exact h.hexDigit n hn

theorem isCodeSet_inFragmentSet : IsCodeSet inFragmentSet := ⟨by decide, by decide⟩

theorem isCodeSet_inPathSet : IsCodeSet inPathSet := ⟨by decide, by decide⟩

theorem isCodeSet_inUserSet : IsCodeSet inUserSet := ⟨by decide, by decide⟩

theorem isCodeSet_inQuerySet : IsCodeSet inQuerySet := ⟨by decide, by decide⟩

/-- What is coded in a fragment is coded in a path and in a user too. -/
theorem isPrintable_of_inFragmentSet (h : inFragmentSet c = false) : Text.isPrintable c = true := by
  have hascii : c.toNat < 128 := by
    simp only [inFragmentSet, isControl, Bool.or_eq_false_iff, decide_eq_false_iff_not] at h
    omega
  exact Text.forall_ascii (P := fun c => inFragmentSet c = false → Text.isPrintable c = true)
    (by decide) hascii h

theorem isPrintable_of_inQuerySet (h : inQuerySet c = false) : Text.isPrintable c = true := by
  have hascii : c.toNat < 128 := by
    simp only [inQuerySet, isControl, Bool.or_eq_false_iff, decide_eq_false_iff_not] at h
    omega
  exact Text.forall_ascii (P := fun c => inQuerySet c = false → Text.isPrintable c = true)
    (by decide) hascii h

theorem isPrintable_of_inPathSet (h : inPathSet c = false) : Text.isPrintable c = true :=
  isPrintable_of_inFragmentSet (Bool.or_eq_false_iff.1 h).1

theorem isPrintable_of_inUserSet (h : inUserSet c = false) : Text.isPrintable c = true :=
  isPrintable_of_inPathSet (Bool.or_eq_false_iff.1 h).1

end Encode

/-! ## Decoding -/

theorem decode_of_not_mem {octets : List UInt8} (h : 0x25 ∉ octets) : decode octets = octets := by
  induction octets with
  | nil => rfl
  | cons b rest ih =>
      rw [List.mem_cons, not_or] at h
      rw [decode]
      · rw [ih h.2]
      · rintro high low more rfl
        exact absurd rfl h.1

/-- No character but the percent sign has its octet. -/
theorem eq_of_percent_mem_utf8EncodeChar {c : Char} (h : 0x25 ∈ String.utf8EncodeChar c) :
    c = '%' := by
  have hbyte : ∀ n, 0x25 = UInt8.ofNat n → n % 256 = 0x25 := by
    intro n hn
    simpa using (congrArg UInt8.toNat hn).symm
  rw [String.utf8EncodeChar] at h
  split_ifs at h with hone htwo hthree
  all_goals simp only [List.mem_cons, List.not_mem_nil, or_false] at h
  · have hval := hbyte _ h
    exact Char.toNat_inj.1 (show c.val.toNat = 0x25 by omega)
  -- the octets of a longer encoding have their highest bit set
  · rcases h with h | h <;> have hval := hbyte _ h <;> omega
  · rcases h with h | h | h <;> have hval := hbyte _ h <;> omega
  · rcases h with h | h | h | h <;> have hval := hbyte _ h <;> omega

theorem percent_not_mem_encode {text : List Char} (h : '%' ∉ text) :
    0x25 ∉ Utf8.encode (String.ofList text) := by
  intro hmem
  rw [Utf8.encode, String.toByteArray_ofList, List.utf8Encode] at hmem
  obtain ⟨c, hc, hbyte⟩ := List.mem_flatMap.1 (by simpa using hmem)
  exact h (eq_of_percent_mem_utf8EncodeChar hbyte ▸ hc)

/-- A text without a percent sign stands for itself. -/
theorem decode?_decode_encode {text : List Char} (h : '%' ∉ text) :
    Utf8.decode? (decode (Utf8.encode (String.ofList text))) = some (String.ofList text) := by
  rw [decode_of_not_mem (percent_not_mem_encode h), Utf8.decode?_encode]

end Url

end BrokerMonitor
