/-!
# Text as octets

UTF-8 as lists of octets. Every text has one encoding, and reading accepts exactly the encodings.
-/

namespace BrokerMonitor.Utf8

/-- The octets of a text. -/
def encode (s : String) : List UInt8 := s.toByteArray.data.toList

/-- The text of a list of octets, if they are well-formed UTF-8. -/
def decode? (octets : List UInt8) : Option String := String.fromUTF8? ⟨octets.toArray⟩

@[simp] theorem decode?_encode (s : String) : decode? (encode s) = some s := by
  have h : (⟨s.toByteArray.data.toList.toArray⟩ : ByteArray) = s.toByteArray := by simp
  unfold decode? encode
  rw [h]
  simp only [String.fromUTF8?, s.isValidUTF8, dite_true]
  rfl

theorem eq_encode_of_decode? {octets : List UInt8} {s : String} (h : decode? octets = some s) :
    octets = encode s := by
  unfold decode? String.fromUTF8? at h
  split at h
  · cases h
    simp [encode, String.fromUTF8]
  · cases h

end BrokerMonitor.Utf8
