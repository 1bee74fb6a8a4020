import BrokerMonitor.Proofs.Wire.Reading
/-!
# Reading the fields of a message

`Reads` says that octets, read as fields, take the message from one value to another and leave what
follows them alone. It composes like the octets do, so that what a writer puts out is read back part
by part. `Preserves` is the other direction: what every single field keeps, a whole message keeps,
and it may speak of how many octets are left.
-/

namespace BrokerMonitor.Wire.Rule

variable {α β γ : Type}

/-- Reading fields from these octets takes the message from `a` to `b` and then goes on with what
follows them, as long as the reading does not have to stop before. -/
def Reads (rule : Rule α) (octets : List UInt8) (a b : α) : Prop :=
  ∃ count ≤ octets.length, ∀ depth after turns rest, after ≤ rest.length →
    rule.readFields depth after (count + turns) a (octets ++ rest) =
      rule.readFields depth after turns b rest

/-- The message declares this field, under a number that a key can hold. -/
structure Declares (rule : Rule α) (number : Nat) (f : FieldRule α) : Prop where
  field : rule.field? number = some f
  pos : 0 < number
  lt : number < Key.maxField

namespace Reads

variable {rule : Rule α} {a b c : α} {octets : List UInt8} {number : Nat} {name : String}

theorem nil (rule : Rule α) (a : α) : rule.Reads [] a a :=
  ⟨0, le_rfl, fun depth after turns rest _ => by simp⟩

theorem append {more : List UInt8} (h : rule.Reads octets a b) (h' : rule.Reads more b c) :
    rule.Reads (octets ++ more) a c := by
  obtain ⟨count, hcount, hread⟩ := h
  obtain ⟨count', hcount', hread'⟩ := h'
  refine ⟨count + count', by rw [List.length_append]; omega, fun depth after turns rest hrest => ?_⟩
  rw [List.append_assoc, Nat.add_assoc, hread _ _ _ _ (by rw [List.length_append]; omega),
    hread' _ _ _ _ hrest]

/-- A repeated field: what is read depends on the elements seen so far. -/
theorem flatMap {write : γ → List UInt8} (value : List γ → α) {l : List γ}
    (h : ∀ seen, ∀ x ∈ l, rule.Reads (write x) (value seen) (value (seen ++ [x])))
    (seen : List γ) : rule.Reads (l.flatMap write) (value seen) (value (seen ++ l)) := by
  induction l generalizing seen with
  | nil => simpa using nil rule (value seen)
  | cons x l ih =>
      have hx := h seen x List.mem_cons_self
      have hl := ih (fun seen y hy => h seen y (List.mem_cons_of_mem x hy)) (seen ++ [x])
      rw [List.append_assoc, List.singleton_append] at hl
      exact hx.append hl

/-- A field is read when its value is. -/
theorem field {f : FieldRule α} (hf : rule.Declares number f) {change : α → α}
    (hvalue : ∀ rest, f.value (octets ++ rest) = .ok (change, rest)) (a : α) :
    rule.Reads (Key.write ⟨number, f.wireType⟩ ++ octets) a (change a) := by
  have hkey := Key.length_write_pos ⟨number, f.wireType⟩
  refine ⟨1, by rw [List.length_append]; omega, fun depth after turns rest hrest => ?_⟩
  have hlong : ¬ (Key.write ⟨number, f.wireType⟩ ++ (octets ++ rest)).length ≤ after := by
    simp only [List.length_append]
    omega
  have hread : Key.read.located (Key.write ⟨number, f.wireType⟩ ++ (octets ++ rest)) =
      .ok (⟨number, f.wireType⟩, octets ++ rest) :=
    located_eq_ok_iff.2 (Key.read_write hf.pos hf.lt _)
  have hfield : rule.readField depth ⟨number, f.wireType⟩ (octets ++ rest) =
      .ok (change, rest) := by
    simp [readField, hf.field, hvalue, Except.mapError]
  rw [Nat.add_comm, readFields, List.append_assoc, if_neg hlong, hread]
  simp only [bind, Except.bind, hfield]

/-- A number is read back, also where it is not written because it is zero. -/
theorem varint {put : UInt64 → α → α} (hf : rule.Declares number (.varint name put))
    (n : UInt64) (a : α) (hzero : put 0 a = a) : rule.Reads (writeVarint number n) a (put n a) := by
  unfold writeVarint
  split
  · rename_i hn
    rw [hn, hzero]
    exact nil rule a
  · refine field hf (fun rest => ?_) a
    have hread : readVarint.located (Varint.write n.toNat ++ rest) = .ok (n.toNat, rest) :=
      located_eq_ok_iff.2 (readVarint_write n.toNat_lt rest)
    simp [FieldRule.varint, hread, bind, Except.bind, pure, Except.pure]

theorem text {put : String → α → α} (hf : rule.Declares number (.text name put)) {s : String}
    (hs : (writeText number s).length < UInt64.size) (a : α) :
    rule.Reads (writeText number s) a (put s a) := by
  simp only [writeText, writeDelimited, List.length_append] at hs
  rw [writeText, writeDelimited, List.append_assoc]
  refine field hf (fun rest => ?_) a
  have hread : readText.located (Varint.write (Utf8.encode s).length ++ (Utf8.encode s ++ rest)) =
      .ok (s, rest) := located_eq_ok_iff.2 (readText_write (by omega) rest)
  simp [FieldRule.text, hread, bind, Except.bind, pure, Except.pure]

/-- A text is read back, also where it is not written because it is empty. -/
theorem textUnlessEmpty {put : String → α → α} (hf : rule.Declares number (.text name put))
    {s : String} (hs : (writeTextUnlessEmpty number s).length < UInt64.size)
    (hempty : put "" a = a) : rule.Reads (writeTextUnlessEmpty number s) a (put s a) := by
  unfold writeTextUnlessEmpty at hs ⊢
  split
  · rename_i h
    rw [String.isEmpty_iff.1 h, hempty]
    exact nil rule a
  · rename_i h
    rw [if_neg h] at hs
    exact text hf hs a

/-- The texts of a repeated field are read back, the empty ones among them too. -/
theorem texts {put : String → α → α} (hf : rule.Declares number (.text name put))
    (value : List String → α) (hput : ∀ seen s, put s (value seen) = value (seen ++ [s]))
    {l : List String} (hl : (l.flatMap (writeText number)).length < UInt64.size) :
    rule.Reads (l.flatMap (writeText number)) (value []) (value l) := by
  refine flatMap value (fun seen s hs => ?_) []
  obtain ⟨front, back, rfl⟩ := List.append_of_mem hs
  simp only [List.flatMap_append, List.flatMap_cons, List.length_append] at hl
  rw [← hput seen s]
  exact text hf (by omega) (value seen)

/-- The fields of an inner message are read up to the end of its octets. -/
theorem readInner {inner : Rule β} {empty b : β} (h : inner.Reads octets empty b)
    (hlen : octets.length < UInt64.size) (depth : Nat) (rest : List UInt8) :
    inner.readInner empty depth (Varint.write octets.length ++ (octets ++ rest)) =
      .ok (b, rest) := by
  obtain ⟨count, hcount, hread⟩ := h
  have hafter : (octets ++ rest).length - octets.length = rest.length := by simp
  have hturns : (octets ++ rest).length = count + (octets.length - count + rest.length) := by
    rw [List.length_append]
    omega
  have hlength : readLength.located (Varint.write octets.length ++ (octets ++ rest)) =
      .ok (octets.length, octets ++ rest) := located_eq_ok_iff.2 (readLength_write hlen rest)
  have hfields : inner.readFields depth rest.length (octets ++ rest).length empty
      (octets ++ rest) = .ok (b, rest) := by
    rw [hturns, hread _ _ _ _ le_rfl]
    cases octets.length - count + rest.length <;> simp [readFields]
  rw [Rule.readInner, hlength]
  simp only [bind, Except.bind, hafter, hfields, if_true]

theorem message {inner : Rule β} {empty b : β} {put : β → α → α}
    (hf : rule.Declares number (.message name inner empty put)) (h : inner.Reads octets empty b)
    (hlen : octets.length < UInt64.size) (a : α) :
    rule.Reads (writeDelimited number octets) a (put b a) := by
  rw [writeDelimited, List.append_assoc]
  refine field hf (fun rest => ?_) a
  simp only [FieldRule.message, List.append_assoc, h.readInner hlen, bind, Except.bind, pure,
    Except.pure]

theorem decode {empty : α} (h : rule.Reads octets empty a) :
    rule.decode empty octets = .ok a := by
  obtain ⟨count, hcount, hread⟩ := h
  have := hread maxDepth 0 (octets.length - count) [] (Nat.zero_le _)
  rw [List.append_nil, Nat.add_sub_cancel' hcount] at this
  rw [Rule.decode, this]
  cases octets.length - count <;> simp [readFields, Except.map]

/-- A value that cannot be read ends the reading, whatever was read before it. -/
theorem decode_eq_error {empty : α} {f : FieldRule α} {e : DecodeError} {rest : List UInt8}
    (h : rule.Reads octets empty a) (hf : rule.Declares number f)
    (hvalue : f.value rest = .error e) :
    rule.decode empty (octets ++ (Key.write ⟨number, f.wireType⟩ ++ rest)) =
      .error (e.inside rule.name f.name) := by
  obtain ⟨count, hcount, hread⟩ := h
  have hkey := Key.length_write_pos ⟨number, f.wireType⟩
  have hgoes : ¬ (Key.write ⟨number, f.wireType⟩ ++ rest).length ≤ 0 := by
    rw [List.length_append]
    omega
  obtain ⟨turns, hturns⟩ : ∃ turns,
      (octets ++ (Key.write ⟨number, f.wireType⟩ ++ rest)).length = count + (turns + 1) := by
    refine ⟨octets.length + (Key.write ⟨number, f.wireType⟩ ++ rest).length - count - 1, ?_⟩
    rw [List.length_append]
    omega
  have hstart : Key.read.located (Key.write ⟨number, f.wireType⟩ ++ rest) =
      .ok (⟨number, f.wireType⟩, rest) := located_eq_ok_iff.2 (Key.read_write hf.pos hf.lt rest)
  have hfield : rule.readField maxDepth ⟨number, f.wireType⟩ rest =
      .error (e.inside rule.name f.name) := by
    simp [readField, hf.field, hvalue, Except.mapError]
  rw [Rule.decode, hturns, hread _ _ _ _ (Nat.zero_le _), readFields, if_neg hgoes, hstart]
  simp only [bind, Except.bind, hfield, Except.map]

/-- The length of an inner message has to fit 64 bits. -/
theorem decode_eq_error_of_long {inner : Rule β} {empty : α} {innerEmpty : β} {put : β → α → α}
    (h : rule.Reads octets empty a)
    (hf : rule.Declares number (.message name inner innerEmpty put)) {long : List UInt8}
    (hlong : UInt64.size ≤ long.length) (more : List UInt8) :
    rule.decode empty (octets ++ (writeDelimited number long ++ more)) =
      .error ⟨.invalidVarint, [(rule.name, name)]⟩ := by
  have hvalue : (FieldRule.message name inner innerEmpty put).value
      (Varint.write long.length ++ (long ++ more)) = .error ⟨.invalidVarint, []⟩ := by
    simp [FieldRule.message, Rule.readInner, Reader.located, readLength_write_of_le hlong,
      Except.mapError, bind, Except.bind]
  rw [writeDelimited, List.append_assoc, List.append_assoc]
  exact h.decode_eq_error hf hvalue

end Reads

/-- What a message keeps while it is read, beside the number of octets left: it stands when octets
are passed over, and no field that is declared breaks it. The key before a value is one octet at
least. -/
structure Preserves (rule : Rule α) (P : Nat → α → Prop) : Prop where
  antitone {left fewer : Nat} {a : α} : fewer ≤ left → P left a → P fewer a
  field {number : Nat} {f : FieldRule α} {octets rest : List UInt8} {change : α → α} {a : α} :
    rule.field? number = some f → f.value octets = .ok (change, rest) →
      P (octets.length + 1) a → P rest.length (change a)

namespace Preserves

variable {rule : Rule α} {P : Nat → α → Prop}

theorem readField (h : rule.Preserves P) {depth : Nat} {key : Key} {octets rest : List UInt8}
    {change : α → α} {a : α} (hread : rule.readField depth key octets = .ok (change, rest))
    (ha : P (octets.length + 1) a) : P rest.length (change a) := by
  unfold Rule.readField at hread
  split at hread
  · obtain ⟨⟨⟨⟩, after⟩, hskip, hread⟩ := bind_eq_ok_iff.1 hread
    cases hread
    exact h.antitone ((length_of_skipField (located_eq_ok_iff.1 hskip)).trans (Nat.le_succ _)) ha
  · rename_i f hf
    have hread := mapError_eq_ok_iff.1 hread
    split at hread
    · exact h.field hf hread ha
    · cases hread

/-- What every field keeps, the whole message keeps. -/
theorem readFields (h : rule.Preserves P) {depth after turns : Nat} {octets rest : List UInt8}
    {a b : α} (hread : rule.readFields depth after turns a octets = .ok (b, rest))
    (ha : P octets.length a) : P rest.length b := by
  induction turns generalizing a octets with
  | zero =>
      cases hread
      exact ha
  | succ turns ih =>
      rw [Rule.readFields] at hread
      split at hread
      · cases hread
        exact ha
      · obtain ⟨⟨key, inner⟩, hkey, hread⟩ := bind_eq_ok_iff.1 hread
        obtain ⟨⟨change, tail⟩, hfield, hread⟩ := bind_eq_ok_iff.1 hread
        have hlt := Key.length_of_read (located_eq_ok_iff.1 hkey)
        exact ih hread (h.readField hfield (h.antitone hlt ha))

theorem decode (h : rule.Preserves P) {octets : List UInt8} {empty a : α}
    (hread : rule.decode empty octets = .ok a) (hempty : P octets.length empty) : P 0 a := by
  unfold Rule.decode at hread
  cases hfields : rule.readFields maxDepth 0 octets.length empty octets with
  | error e => simp [hfields, Except.map] at hread
  | ok r =>
      obtain ⟨b, rest⟩ := r
      simp only [hfields, Except.map, Except.ok.injEq] at hread
      exact h.antitone (Nat.zero_le _) (hread ▸ h.readFields hfields hempty)

end Preserves

end BrokerMonitor.Wire.Rule

namespace BrokerMonitor.Wire

theorem length_writeTextUnlessEmpty_le (number : Nat) (s : String) :
    (writeTextUnlessEmpty number s).length ≤ (writeText number s).length := by
  unfold writeTextUnlessEmpty
  split <;> simp

/-- A number takes ten octets at most, after a key of one octet. -/
theorem length_writeVarint_le {number : Nat} (h : number < 16) (n : UInt64) :
    (writeVarint number n).length ≤ 11 := by
  unfold writeVarint
  split
  · simp
  · have hlen := Varint.length_write_of_lt_size n.toNat_lt
    rw [Varint.maxLength] at hlen
    rw [List.length_append, Key.length_write h]
    omega

end BrokerMonitor.Wire

namespace BrokerMonitor.Wire.FieldRule

open Rule

variable {α β : Type} {name : String} {octets rest : List UInt8} {change : α → α}

theorem of_value_varint {put : UInt64 → α → α}
    (h : (varint name put).value octets = .ok (change, rest)) :
    ∃ n, change = put n ∧ rest.length < octets.length := by
  obtain ⟨⟨n, after⟩, hn, h⟩ := bind_eq_ok_iff.1 h
  cases h
  exact ⟨_, rfl, length_of_readVarint (located_eq_ok_iff.1 hn)⟩

/-- With its key, a text takes no fewer octets than it is written in. -/
theorem of_value_text {put : String → α → α}
    (h : (text name put).value octets = .ok (change, rest)) :
    ∃ s, change = put s ∧ ∀ number < 16,
      (writeText number s).length + rest.length ≤ octets.length + 1 := by
  obtain ⟨⟨s, after⟩, hs, h⟩ := bind_eq_ok_iff.1 h
  cases h
  refine ⟨s, rfl, fun number hnumber => ?_⟩
  have hlen := length_of_readText (located_eq_ok_iff.1 hs)
  rw [writeText, writeDelimited, List.length_append, List.length_append,
    Key.length_write hnumber]
  omega

/-- What the inner message keeps over its own octets holds of it in the end. -/
theorem of_value_message {inner : Rule β} {empty : β} {put : β → α → α} {P : Nat → β → Prop}
    (hinner : inner.Preserves P)
    (h : (message name inner empty put).value octets = .ok (change, rest))
    (hempty : P octets.length empty) :
    ∃ b, change = put b ∧ P 0 b ∧ rest.length ≤ octets.length := by
  obtain ⟨⟨b, after⟩, hb, h⟩ := bind_eq_ok_iff.1 h
  cases h
  obtain ⟨⟨count, start⟩, hcount, hb⟩ := bind_eq_ok_iff.1 hb
  obtain ⟨⟨c, tail⟩, hfields, hb⟩ := bind_eq_ok_iff.1 hb
  have hstart : start.length ≤ octets.length := by
    have := of_readLength (located_eq_ok_iff.1 hcount)
    omega
  dsimp only at hb
  split at hb
  · rename_i hend
    cases hb
    have hkept := hinner.readFields hfields (hinner.antitone hstart hempty)
    exact ⟨_, rfl, hinner.antitone (Nat.zero_le _) hkept, by omega⟩
  · cases hb

end BrokerMonitor.Wire.FieldRule
