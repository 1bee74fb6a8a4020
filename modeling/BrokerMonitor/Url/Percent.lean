import BrokerMonitor.Text.Utf8
import BrokerMonitor.Unicode.Table
/-!
# Percent coding

A URL writes a character that has no place in one of its parts as a percent sign and two hexadecimal
digits for each octet. Which characters have no place depends on the part.
-/

namespace BrokerMonitor.Url

/-- Characters that no part writes as they are: controls, and everything outside ASCII. -/
def isControl (c : Char) : Bool := c.toNat < 0x20 || 0x7F ≤ c.toNat

/-- Characters that a fragment encodes. -/
def inFragmentSet (c : Char) : Bool := isControl c || " \"<>`".toList.contains c

/-- Characters that a path segment encodes. -/
def inPathSet (c : Char) : Bool := inFragmentSet c || ['#', '?', '\x7b', '\x7d'].contains c

/-- Characters that a user name and a password encode. -/
def inUserSet (c : Char) : Bool := inPathSet c || "/:;=@[\\]^|".toList.contains c

/-- Characters that a query encodes. -/
def inQuerySet (c : Char) : Bool := isControl c || " \"#<>'".toList.contains c

/-- The upper-case hexadecimal digit of a value below 16. -/
def hexDigit (n : Nat) : Char :=
  if n < 10 then Char.ofNat ('0'.toNat + n) else Char.ofNat ('A'.toNat + (n - 10))

/-- An octet as a percent sign and two digits. -/
def encodeOctet (b : UInt8) : List Char :=
  ['%', hexDigit (b.toNat / 16), hexDigit (b.toNat % 16)]

/-- Encodes the characters of a set, and leaves the others as they are. -/
def encode (inSet : Char → Bool) (text : List Char) : List Char :=
  text.flatMap fun c =>
    if inSet c then (Utf8.encode (String.singleton c)).flatMap encodeOctet else [c]

/-- The octet that two hexadecimal digits stand for. -/
def octet? (high low : UInt8) : Option UInt8 := do
  let h ← Unicode.Table.hexDigit? (Char.ofNat high.toNat)
  let l ← Unicode.Table.hexDigit? (Char.ofNat low.toNat)
  some (UInt8.ofNat (h * 16 + l))

/-- The octets that a text stands for; a percent sign without two digits stands for itself. -/
def decode : List UInt8 → List UInt8
  | [] => []
  | 0x25 :: high :: low :: rest =>
    match octet? high low with
    | some b => b :: decode rest
    | none => 0x25 :: decode (high :: low :: rest)
  | b :: rest => b :: decode rest

@[simp] theorem encode_nil (inSet : Char → Bool) : encode inSet [] = [] := rfl

@[simp] theorem encode_append (inSet : Char → Bool) (a b : List Char) :
    encode inSet (a ++ b) = encode inSet a ++ encode inSet b := by
  simp [encode]

/-- Text without a character of the set stays as it is. -/
theorem encode_of_forall_not {inSet : Char → Bool} {text : List Char}
    (h : ∀ c ∈ text, inSet c = false) : encode inSet text = text := by
  induction text with
  | nil => rfl
  | cons c rest ih =>
    have hc := h c (by simp)
    have hr := ih fun d hd => h d (by simp [hd])
    simp only [encode] at hr
    simp [encode, hc, hr]

end BrokerMonitor.Url
