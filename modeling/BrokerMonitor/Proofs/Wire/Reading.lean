import BrokerMonitor.Proofs.Wire.Numbers
import BrokerMonitor.Wire.Rule
/-!
# What the readers take

Each reader takes exactly what its writer wrote, whatever follows it. The other way round, a reading
that succeeds says what it has taken: a text takes no fewer octets than it is written in, and
nothing that is read or skipped adds to the octets left.
-/

namespace BrokerMonitor.Wire

/-- A sequence succeeds where both of its parts do. -/
theorem bind_eq_ok_iff {ε α β : Type} {x : Except ε α} {f : α → Except ε β} {b : β} :
    x >>= f = .ok b ↔ ∃ a, x = .ok a ∧ f a = .ok b := by
  cases x <;> simp [bind, Except.bind]

theorem mapError_eq_ok_iff {ε ε' α : Type} {x : Except ε α} {f : ε → ε'} {a : α} :
    x.mapError f = .ok a ↔ x = .ok a := by
  cases x <;> simp [Except.mapError]

theorem located_eq_ok_iff {α : Type} {r : Reader α} {octets rest : List UInt8} {a : α} :
    r.located octets = .ok (a, rest) ↔ r octets = .ok (a, rest) :=
  mapError_eq_ok_iff

/-! ### Numbers -/

theorem readVarint_eq_ok_iff {n : Nat} {octets rest : List UInt8} :
    readVarint octets = .ok (n, rest) ↔ Varint.read? octets = some (n, rest) := by
  unfold readVarint
  split <;> simp_all

theorem readVarint_write {n : Nat} (hn : n < UInt64.size) (rest : List UInt8) :
    readVarint (Varint.write n ++ rest) = .ok (n, rest) :=
  readVarint_eq_ok_iff.2 (by rw [Varint.read?_write_append, if_pos hn])

theorem readVarint_write_of_le {n : Nat} (hn : UInt64.size ≤ n) (rest : List UInt8) :
    readVarint (Varint.write n ++ rest) = .error .invalidVarint := by
  rw [readVarint, Varint.read?_write_append, if_neg (by omega)]

theorem length_of_readVarint {n : Nat} {octets rest : List UInt8}
    (h : readVarint octets = .ok (n, rest)) : rest.length < octets.length :=
  Varint.length_of_read? (readVarint_eq_ok_iff.1 h)

theorem length_write_of_readVarint {n : Nat} {octets rest : List UInt8}
    (h : readVarint octets = .ok (n, rest)) :
    (Varint.write n).length + rest.length ≤ octets.length :=
  Varint.length_write_of_read? (readVarint_eq_ok_iff.1 h)

/-! ### Keys -/

namespace Key

/-- The least number that no field has: three of the 32 bits of a key are the wire type. -/
def maxField : Nat := 2 ^ 29

theorem ofNat_toNat {k : Key} (hpos : 0 < k.field) (hmax : k.field < maxField) :
    ofNat k.toNat = .ok k := by
  have hnumber : k.wireType.number < 8 := by cases k.wireType <;> decide
  have hmod : k.toNat % 8 = k.wireType.number := by rw [toNat]; omega
  have hdiv : k.toNat / 8 = k.field := by rw [toNat]; omega
  have hsize : k.toNat < UInt32.size := by
    simp only [toNat, maxField, UInt32.size] at *
    omega
  simp [ofNat, hmod, hdiv, Nat.not_le.2 hsize, hpos.ne']

theorem read_write {k : Key} (hpos : 0 < k.field) (hmax : k.field < maxField)
    (rest : List UInt8) : read (k.write ++ rest) = .ok (k, rest) := by
  have hnumber : k.wireType.number < 8 := by cases k.wireType <;> decide
  have hsize : k.toNat < UInt64.size := by
    simp only [toNat, maxField, UInt64.size] at *
    omega
  rw [read, write, readVarint_write hsize]
  show (ofNat k.toNat >>= fun key => pure (key, rest)) = _
  rw [ofNat_toNat hpos hmax]
  rfl

theorem length_write_pos (k : Key) : 0 < k.write.length := Varint.length_write_pos k.toNat

/-- The keys of the first fields take one octet. -/
theorem length_write {k : Key} (h : k.field < 16) : k.write.length = 1 := by
  have hnumber : k.wireType.number < 8 := by cases k.wireType <;> decide
  have hsmall : k.toNat < 128 := by rw [toNat]; omega
  simp [write, Varint.write, hsmall]

theorem length_of_read {k : Key} {octets rest : List UInt8} (h : read octets = .ok (k, rest)) :
    rest.length < octets.length := by
  obtain ⟨⟨n, after⟩, hn, h⟩ := bind_eq_ok_iff.1 h
  obtain ⟨key, -, h⟩ := bind_eq_ok_iff.1 h
  cases h
  exact length_of_readVarint hn

end Key

/-! ### Fields that are skipped -/

theorem length_of_skipOctets {count : Nat} {octets rest : List UInt8}
    (h : skipOctets count octets = .ok ((), rest)) : rest.length ≤ octets.length := by
  unfold skipOctets at h
  split at h
  · cases h
  · cases h
    simp

theorem length_of_skipGroup {skip : Key → Reader Unit}
    (hskip : ∀ {key octets rest}, skip key octets = .ok ((), rest) → rest.length ≤ octets.length)
    {field turns : Nat} {octets rest : List UInt8}
    (h : skipGroup skip field turns octets = .ok ((), rest)) : rest.length ≤ octets.length := by
  induction turns generalizing octets with
  | zero => cases h
  | succ turns ih =>
      obtain ⟨⟨key, inner⟩, hkey, h⟩ := bind_eq_ok_iff.1 h
      have hlt := Key.length_of_read hkey
      dsimp only at h
      split at h
      · split at h
        · cases h
          exact hlt.le
        · cases h
      · obtain ⟨⟨⟨⟩, after⟩, hfield, h⟩ := bind_eq_ok_iff.1 h
        exact ((ih h).trans (hskip hfield)).trans hlt.le

theorem length_of_skipField {depth : Nat} {key : Key} {octets rest : List UInt8}
    (h : skipField depth key octets = .ok ((), rest)) : rest.length ≤ octets.length := by
  induction depth generalizing key octets rest with
  | zero => cases h
  | succ depth ih =>
      rw [skipField] at h
      split at h
      · obtain ⟨⟨n, after⟩, hn, h⟩ := bind_eq_ok_iff.1 h
        cases h
        exact (length_of_readVarint hn).le
      · exact length_of_skipOctets h
      · exact length_of_skipOctets h
      · obtain ⟨⟨count, after⟩, hn, h⟩ := bind_eq_ok_iff.1 h
        exact (length_of_skipOctets h).trans (length_of_readVarint hn).le
      · exact length_of_skipGroup ih h
      · cases h

/-! ### Lengths and texts -/

namespace Rule

theorem readLength_write {octets : List UInt8} (h : octets.length < UInt64.size)
    (rest : List UInt8) :
    readLength (Varint.write octets.length ++ (octets ++ rest)) =
      .ok (octets.length, octets ++ rest) := by
  rw [readLength, readVarint_write h]
  show (if (octets ++ rest).length < octets.length then _ else _) = _
  rw [if_neg (by simp)]

theorem readLength_write_of_le {n : Nat} (hn : UInt64.size ≤ n) (rest : List UInt8) :
    readLength (Varint.write n ++ rest) = .error .invalidVarint := by
  rw [readLength, readVarint_write_of_le hn]
  rfl

theorem of_readLength {count : Nat} {octets rest : List UInt8}
    (h : readLength octets = .ok (count, rest)) :
    count ≤ rest.length ∧ (Varint.write count).length + rest.length ≤ octets.length := by
  obtain ⟨⟨n, after⟩, hn, h⟩ := bind_eq_ok_iff.1 h
  dsimp only at h
  split at h
  · cases h
  · cases h
    exact ⟨by omega, length_write_of_readVarint hn⟩

theorem readText_write {s : String} (h : (Utf8.encode s).length < UInt64.size)
    (rest : List UInt8) :
    readText (Varint.write (Utf8.encode s).length ++ (Utf8.encode s ++ rest)) = .ok (s, rest) := by
  rw [readText, readLength_write h]
  simp only [bind, Except.bind, List.take_left, List.drop_left, Utf8.decode?_encode]
  rfl

/-- A text takes no fewer octets than it is written in. -/
theorem length_of_readText {s : String} {octets rest : List UInt8}
    (h : readText octets = .ok (s, rest)) :
    (Varint.write (Utf8.encode s).length).length + (Utf8.encode s).length + rest.length ≤
      octets.length := by
  obtain ⟨⟨count, after⟩, hcount, h⟩ := bind_eq_ok_iff.1 h
  obtain ⟨hle, hlen⟩ := of_readLength hcount
  dsimp only at h
  split at h
  · rename_i text htext
    cases h
    have hs : (Utf8.encode s).length = count := by
      rw [← Utf8.eq_encode_of_decode? htext, List.length_take, Nat.min_eq_left hle]
    rw [hs, List.length_drop]
    omega
  · cases h

end Rule

end BrokerMonitor.Wire
