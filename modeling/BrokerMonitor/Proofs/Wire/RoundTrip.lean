import BrokerMonitor.Proofs.Wire.Fields
import BrokerMonitor.Wire.Codec
/-!
# The messages round trip

What is written is read back: every listing and every request, as long as the length of each entry
fits the 64 bits that the format gives a length. What is read can be written: the octets that come
out may differ from the ones that were read, but they are read as the same message, and written
again they stay as they are.
-/

namespace BrokerMonitor

open Wire Rule

namespace ChannelEntry

/-- Sign extension keeps the low 32 bits. -/
theorem toInt32_toUInt32_toUInt64_toInt64 (n : Int32) :
    n.toInt64.toUInt64.toUInt32.toInt32 = n := by
  apply Int32.toBitVec_inj.1
  ext i hi
  simp [BitVec.getElem_signExtend, hi, show i < 64 by omega]

theorem reads_encode {e : ChannelEntry} (h : e.encode.length < UInt64.size) :
    rule.Reads e.encode {} e := by
  obtain ⟨topic, subscribers, publishers, messageCount⟩ := e
  simp only [encode, List.length_append] at h
  have htopic : rule.Reads (writeTextUnlessEmpty 1 topic) {} { topic } :=
    Reads.textUnlessEmpty (⟨rfl, by decide, by decide⟩ : rule.Declares 1 (.text _ _)) (by omega) rfl
  have hsubscribers : rule.Reads (subscribers.flatMap (writeText 2)) { topic }
      { topic, subscribers } :=
    Reads.texts (⟨rfl, by decide, by decide⟩ : rule.Declares 2 (.text _ _))
      (fun subscribers => { topic, subscribers }) (fun _ _ => rfl) (by omega)
  have hpublishers : rule.Reads (publishers.flatMap (writeText 3)) { topic, subscribers }
      { topic, subscribers, publishers } :=
    Reads.texts (⟨rfl, by decide, by decide⟩ : rule.Declares 3 (.text _ _))
      (fun publishers => { topic, subscribers, publishers }) (fun _ _ => rfl) (by omega)
  have hcount : rule.Reads (writeVarint 4 messageCount.toInt64.toUInt64)
      { topic, subscribers, publishers } { topic, subscribers, publishers, messageCount } := by
    have := Reads.varint (⟨rfl, by decide, by decide⟩ : rule.Declares 4 (.varint _ _))
      messageCount.toInt64.toUInt64 { topic, subscribers, publishers } rfl
    rwa [toInt32_toUInt32_toUInt64_toInt64] at this
  exact ((htopic.append hsubscribers).append hpublishers).append hcount

/-- The octets of an entry beside its count. -/
def bulk (e : ChannelEntry) : Nat := ({ e with messageCount := 0 } : ChannelEntry).encode.length

theorem length_encode_le (e : ChannelEntry) : e.encode.length ≤ e.bulk + 11 := by
  have := length_writeVarint_le (show 4 < 16 by decide) e.messageCount.toInt64.toUInt64
  simp only [bulk, encode, List.length_append]
  omega

/-- What an entry holds never takes more octets than it was read from. The count is left out: a
negative one may be read from five octets and is written in ten. -/
theorem preserves_bulk (limit : Nat) :
    rule.Preserves fun left e => e.bulk + left ≤ limit where
  antitone hle h := (Nat.add_le_add_left hle _).trans h
  field {number f octets rest change e} hf hread h := by
    simp only [rule] at hf
    simp only [bulk, encode, List.length_append] at h ⊢
    split at hf <;> cases hf
    · obtain ⟨s, rfl, hlen⟩ := FieldRule.of_value_text hread
      dsimp only
      have hs := length_writeTextUnlessEmpty_le 1 s
      have hlen := hlen 1 (by decide)
      omega
    · obtain ⟨s, rfl, hlen⟩ := FieldRule.of_value_text hread
      have hlen := hlen 2 (by decide)
      simp only [List.flatMap_append, List.flatMap_singleton, List.length_append]
      omega
    · obtain ⟨s, rfl, hlen⟩ := FieldRule.of_value_text hread
      have hlen := hlen 3 (by decide)
      simp only [List.flatMap_append, List.flatMap_singleton, List.length_append]
      omega
    · obtain ⟨n, rfl, hlen⟩ := FieldRule.of_value_varint hread
      dsimp only
      omega

end ChannelEntry

namespace AdapterEntry

theorem reads_encode {e : AdapterEntry} (h : e.encode.length < UInt64.size) :
    rule.Reads e.encode {} e := by
  obtain ⟨name, live, description, stats⟩ := e
  simp only [encode, List.length_append] at h
  have hname : rule.Reads (writeTextUnlessEmpty 1 name) {} { name } :=
    Reads.textUnlessEmpty (⟨rfl, by decide, by decide⟩ : rule.Declares 1 (.text _ _)) (by omega) rfl
  have hlive : rule.Reads (writeVarint 2 (if live then 1 else 0)) { name } { name, live } := by
    have := Reads.varint (⟨rfl, by decide, by decide⟩ : rule.Declares 2 (.varint _ _))
      (if live then 1 else 0) { name } rfl
    cases live <;> exact this
  have hdescription : rule.Reads (writeTextUnlessEmpty 3 description) { name, live }
      { name, live, description } :=
    Reads.textUnlessEmpty (⟨rfl, by decide, by decide⟩ : rule.Declares 3 (.text _ _)) (by omega) rfl
  have hstats : rule.Reads (stats.flatMap (writeText 4)) { name, live, description }
      { name, live, description, stats } :=
    Reads.texts (⟨rfl, by decide, by decide⟩ : rule.Declares 4 (.text _ _))
      (fun stats => { name, live, description, stats }) (fun _ _ => rfl) (by omega)
  exact ((hname.append hlive).append hdescription).append hstats

/-- An adapter never takes more octets than it was read from. -/
theorem preserves_length (limit : Nat) :
    rule.Preserves fun left e => e.encode.length + left ≤ limit where
  antitone hle h := (Nat.add_le_add_left hle _).trans h
  field {number f octets rest change e} hf hread h := by
    simp only [rule] at hf
    simp only [encode, List.length_append] at h ⊢
    split at hf <;> cases hf
    · obtain ⟨s, rfl, hlen⟩ := FieldRule.of_value_text hread
      dsimp only
      have hs := length_writeTextUnlessEmpty_le 1 s
      have hlen := hlen 1 (by decide)
      omega
    · obtain ⟨n, rfl, hlen⟩ := FieldRule.of_value_varint hread
      dsimp only
      have hlive : (writeVarint 2 (if n != 0 then 1 else 0)).length ≤ 2 := by
        split <;> simp [writeVarint, Key.length_write, Varint.write]
      omega
    · obtain ⟨s, rfl, hlen⟩ := FieldRule.of_value_text hread
      dsimp only
      have hs := length_writeTextUnlessEmpty_le 3 s
      have hlen := hlen 3 (by decide)
      omega
    · obtain ⟨s, rfl, hlen⟩ := FieldRule.of_value_text hread
      have hlen := hlen 4 (by decide)
      simp only [List.flatMap_append, List.flatMap_singleton, List.length_append]
      omega

end AdapterEntry

namespace Resource

theorem declares_channels : (rule .channels).Declares 1
    (.message "channels" ChannelEntry.rule {} fun e m => m ++ [e]) :=
  ⟨rfl, by decide, by decide⟩

theorem declares_adapters : (rule .adapters).Declares 1
    (.message "adapters" AdapterEntry.rule {} fun e m => m ++ [e]) :=
  ⟨rfl, by decide, by decide⟩

theorem reads_entry (r : Resource) {e : r.Entry} (h : (r.encodeEntry e).length < UInt64.size)
    (m : r.Message) : r.rule.Reads (writeDelimited 1 (r.encodeEntry e)) m (m ++ [e]) := by
  cases r with
  | channels => exact Reads.message declares_channels (ChannelEntry.reads_encode h) h m
  | adapters => exact Reads.message declares_adapters (AdapterEntry.reads_encode h) h m

theorem reads_encode (r : Resource) {m : r.Message}
    (h : ∀ e ∈ m, (r.encodeEntry e).length < UInt64.size) : r.rule.Reads (r.encode m) [] m :=
  Reads.flatMap id (fun seen e he => r.reads_entry (h e he) seen) []

/-- The entries of a listing that is read are hardly longer than all of its octets. -/
theorem preserves_entries (r : Resource) (limit : Nat) :
    r.rule.Preserves fun left m =>
      left ≤ limit ∧ ∀ e ∈ m, (r.encodeEntry e).length ≤ limit + 11 where
  antitone hle h := ⟨hle.trans h.1, h.2⟩
  field {number f octets rest change m} hf hread h := by
    obtain ⟨hleft, hentries⟩ := h
    suffices ∃ e, change m = m ++ [e] ∧ (r.encodeEntry e).length ≤ octets.length + 11 ∧
        rest.length ≤ octets.length by
      obtain ⟨e, he, hlen, hrest⟩ := this
      refine ⟨by omega, fun x hx => ?_⟩
      rw [he] at hx
      rcases List.mem_append.1 hx with hx | hx
      · exact hentries x hx
      · rw [List.mem_singleton.1 hx]
        omega
    cases r with
    | channels =>
        simp only [rule] at hf
        split at hf <;> cases hf
        obtain ⟨e, rfl, he, hrest⟩ := FieldRule.of_value_message
          (ChannelEntry.preserves_bulk octets.length) hread (Nat.zero_add _).le
        exact ⟨e, rfl, e.length_encode_le.trans (Nat.add_le_add_right he 11), hrest⟩
    | adapters =>
        simp only [rule] at hf
        split at hf <;> cases hf
        obtain ⟨e, rfl, he, hrest⟩ := FieldRule.of_value_message
          (AdapterEntry.preserves_length octets.length) hread (Nat.zero_add _).le
        exact ⟨e, rfl, he.trans (Nat.le_add_right _ 11), hrest⟩

theorem decode_encode (r : Resource) {m : r.Message}
    (h : ∀ e ∈ m, (r.encodeEntry e).length < UInt64.size) : r.decode (r.encode m) = .ok m :=
  (r.reads_encode h).decode

/-- A buffer has less than half as many octets as a length can say, so what is read from one can be
written. -/
theorem decode_encode_of_decode (r : Resource) {octets : List UInt8} {m : r.Message}
    (hlen : octets.length < 2 ^ 63) (h : r.decode octets = .ok m) :
    r.decode (r.encode m) = .ok m := by
  have hentries := ((r.preserves_entries octets.length).decode h ⟨le_rfl, by simp⟩).2
  refine r.decode_encode fun e he => (hentries e he).trans_lt ?_
  simp only [UInt64.size]
  omega

/-- An entry that is too long for its length to be written makes the listing unreadable. -/
theorem decode_encode_eq_error (r : Resource) {m : r.Message} {e : r.Entry} (he : e ∈ m)
    (h : UInt64.size ≤ (r.encodeEntry e).length) :
    ∃ path, r.decode (r.encode m) = .error ⟨.invalidVarint, path⟩ := by
  obtain ⟨first, hfirst⟩ : ∃ first,
      m.find? (fun e => UInt64.size ≤ (r.encodeEntry e).length) = some first :=
    Option.isSome_iff_exists.1 (List.find?_isSome.2 ⟨e, he, decide_eq_true h⟩)
  obtain ⟨hlong, front, back, rfl, hshort⟩ := List.find?_eq_some_iff_append.1 hfirst
  have hfront := r.reads_encode (m := front) fun e he => by simpa using hshort e he
  rw [encode, List.flatMap_append, List.flatMap_cons]
  have hlong := of_decide_eq_true hlong
  cases r with
  | channels => exact ⟨_, hfront.decode_eq_error_of_long declares_channels hlong _⟩
  | adapters => exact ⟨_, hfront.decode_eq_error_of_long declares_adapters hlong _⟩

/-- The format gives a length 64 bits, and nothing else keeps a listing from being read back. -/
theorem decode_encode_iff (r : Resource) (m : r.Message) :
    r.decode (r.encode m) = .ok m ↔ ∀ e ∈ m, (r.encodeEntry e).length < UInt64.size := by
  refine ⟨fun h e he => ?_, r.decode_encode⟩
  by_contra hlong
  obtain ⟨path, herror⟩ := r.decode_encode_eq_error he (Nat.not_lt.1 hlong)
  rw [herror] at h
  cases h

end Resource

theorem ChannelRequest.decode_encode (q : ChannelRequest) :
    ChannelRequest.decode q.encode = .ok q := rfl

theorem AdapterRequest.decode_encode (q : AdapterRequest) :
    AdapterRequest.decode q.encode = .ok q := by
  have := (Reads.varint (⟨rfl, by decide, by decide⟩ : AdapterRequest.rule.Declares 1 (.varint _ _))
    q.hz.toUInt64 {} rfl).decode
  rwa [UInt32.toUInt32_toUInt64] at this

namespace Wire

/-- Where the value that is read is read back from what it is written as, writing it settles: the
octets that come out say the same and come out of themselves. -/
theorem encode_settles {α : Type} {decode : List UInt8 → Except DecodeError α}
    {encode : α → List UInt8} {octets again : List UInt8}
    (hread : ∀ a, decode octets = .ok a → decode (encode a) = .ok a)
    (hagain : (decode octets).map encode = .ok again) :
    decode again = decode octets ∧ (decode again).map encode = .ok again := by
  cases h : decode octets with
  | error e => simp [h, Except.map] at hagain
  | ok a =>
      simp only [h, Except.map, Except.ok.injEq] at hagain
      rw [← hagain, hread a h]
      exact ⟨rfl, rfl⟩

/-- Every message is read back from what it is written as: both requests without exception, and a
listing of any number of entries exactly when the length of each of them fits the 64 bits that the
format has for a length. And octets of any origin, as many as a buffer can hold, that are read as a
message: what that message is written as is read as the same message, and written again it stays as
it is. -/
theorem messages_round_trip :
    (∀ (r : Resource) (m : r.Message),
      r.decode (r.encode m) = .ok m ↔ ∀ e ∈ m, (r.encodeEntry e).length < UInt64.size) ∧
    (∀ q : ChannelRequest, ChannelRequest.decode q.encode = .ok q) ∧
    (∀ q : AdapterRequest, AdapterRequest.decode q.encode = .ok q) ∧
    (∀ (r : Resource) (octets again : List UInt8), octets.length < 2 ^ 63 →
      (r.decode octets).map r.encode = .ok again →
      r.decode again = r.decode octets ∧ (r.decode again).map r.encode = .ok again) ∧
    (∀ octets again : List UInt8,
      (ChannelRequest.decode octets).map ChannelRequest.encode = .ok again →
      ChannelRequest.decode again = ChannelRequest.decode octets ∧
        (ChannelRequest.decode again).map ChannelRequest.encode = .ok again) ∧
    (∀ octets again : List UInt8,
      (AdapterRequest.decode octets).map AdapterRequest.encode = .ok again →
      AdapterRequest.decode again = AdapterRequest.decode octets ∧
        (AdapterRequest.decode again).map AdapterRequest.encode = .ok again) := by
  refine ⟨Resource.decode_encode_iff, ChannelRequest.decode_encode, AdapterRequest.decode_encode,
    fun r octets again hlen => ?_, fun octets again => ?_, fun octets again => ?_⟩
  · exact encode_settles fun m h => r.decode_encode_of_decode hlen h
  · exact encode_settles fun q _ => q.decode_encode
  · exact encode_settles fun q _ => q.decode_encode

/-- A count of minus one, read from five octets, is written in ten; and an empty text of a repeated
field is kept. -/
theorem messages_round_trip_of_a_negative_count :
    let m : Resource.channels.Message := [⟨"θ", ["", "b"], [], -1⟩, {}]
    let octets : List UInt8 := [0x0a, 0x06, 0x20, 0xff, 0xff, 0xff, 0xff, 0x0f]
    let again : List UInt8 := [0x0a, 0x0b, 0x20] ++ List.replicate 9 0xff ++ [0x01]
    Resource.channels.decode (Resource.channels.encode m) = .ok m ∧
      Resource.channels.decode octets = .ok [⟨"", [], [], -1⟩] ∧
      Resource.channels.decode again = Resource.channels.decode octets ∧
      (Resource.channels.decode again).map Resource.channels.encode = .ok again := by
  intro m octets again
  have h := messages_round_trip
  exact ⟨(h.1 .channels m).2 (by decide +kernel), by decide +kernel,
    h.2.2.2.1 .channels octets again (by decide) (by decide +kernel)⟩

end Wire

end BrokerMonitor
