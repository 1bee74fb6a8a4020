import BrokerMonitor.Proofs.Wire.FieldByField
import BrokerMonitor.Wire.Codec
/-!
# Messages from a later broker

A broker that is newer than its monitor may send fields that the monitor's messages do not declare,
and it may order the fields of a record as it likes. Neither shows in the listing: a field that is
not declared changes nothing, and what fields of different numbers do to a record does not depend on
their order.
-/

namespace BrokerMonitor.Wire.Rule

variable {α : Type} {rule : Rule α} {depth : Nat} {a b : α} {fields more : List (List UInt8)}

/-- The second list of fields is the first one with plain fields inserted that the message does not
declare, and with fields of different numbers put in another order. -/
inductive Rearranged (rule : Rule α) (depth : Nat) (fields : List (List UInt8)) :
    List (List UInt8) → Prop
  | same : Rearranged rule depth fields fields
  | insert (front back : List (List UInt8)) {field : List UInt8} {number : Nat} :
      rule.field? number = none → IsPlainField number field →
      Rearranged rule depth fields (front ++ back) →
      Rearranged rule depth fields (front ++ field :: back)
  | swap (front back : List (List UInt8)) {first second : List UInt8} {m n : Nat} :
      m ≠ n → IsField depth m first → IsField depth n second →
      Rearranged rule depth fields (front ++ first :: second :: back) →
      Rearranged rule depth fields (front ++ second :: first :: back)

/-- Fields of different numbers change the message in either order. -/
def Commutes (rule : Rule α) : Prop :=
  ∀ ⦃m n change change'⦄, m ≠ n → rule.Changes m change → rule.Changes n change' →
    ∀ a, change' (change a) = change (change' a)

/-- Fields that are rearranged are read with the same result. -/
theorem ReadsAll.rearranged (hrule : rule.IsLocal) (hcommutes : rule.Commutes)
    (h : rule.ReadsAll (depth + 1) fields a b)
    (hmore : rule.Rearranged (depth + 1) fields more) : rule.ReadsAll (depth + 1) more a b := by
  induction hmore with
  | same => exact h
  | insert front back hnone hfield _ ih =>
      obtain ⟨middle, hfront, hback⟩ := ReadsAll.append_iff.1 ih
      exact ReadsAll.append_iff.2
        ⟨middle, hfront, .cons (takes_readNext_of_undeclared hnone hfield depth) hback⟩
  | swap front back hne hfirst hsecond _ ih =>
      obtain ⟨middle, hfront, hback⟩ := ReadsAll.append_iff.1 ih
      cases hback with
      | cons hread hback =>
          cases hback with
          | cons hread' hback =>
              have hchange := changes_of_takes hrule hread hfirst
              have hchange' := changes_of_takes hrule hread' hsecond
              rw [hcommutes hne hchange hchange'] at hback
              exact ReadsAll.append_iff.2 ⟨middle, hfront, .cons hread' (.cons hread hback)⟩

end BrokerMonitor.Wire.Rule

namespace BrokerMonitor

open Wire Rule

/-! ### The listings -/

namespace ChannelEntry

theorem cases_of_changes {number : Nat} {change : ChannelEntry → ChannelEntry}
    (h : rule.Changes number change) :
    (number = 1 ∧ ∃ s, change = fun e => { e with topic := s }) ∨
      (number = 2 ∧ ∃ s, change = fun e => { e with subscribers := e.subscribers ++ [s] }) ∨
      (number = 3 ∧ ∃ s, change = fun e => { e with publishers := e.publishers ++ [s] }) ∨
      (number = 4 ∧ ∃ n, change = fun e => { e with messageCount := n }) ∨ change = id := by
  simp only [Changes, rule] at h
  split at h
  · exact .inr (.inr (.inr (.inr h)))
  · rename_i f hf
    obtain ⟨value, h⟩ := h
    split at hf <;> cases hf
    · exact .inl ⟨rfl, FieldRule.exists_of_takes_text h⟩
    · exact .inr (.inl ⟨rfl, FieldRule.exists_of_takes_text h⟩)
    · exact .inr (.inr (.inl ⟨rfl, FieldRule.exists_of_takes_text h⟩))
    · obtain ⟨n, rfl⟩ := FieldRule.exists_of_takes_varint h
      exact .inr (.inr (.inr (.inl ⟨rfl, _, rfl⟩)))

theorem commutes_rule : rule.Commutes := by
  intro m n change change' hne h h' e
  rcases cases_of_changes h with
    ⟨rfl, s, rfl⟩ | ⟨rfl, s, rfl⟩ | ⟨rfl, s, rfl⟩ | ⟨rfl, k, rfl⟩ | rfl <;>
    rcases cases_of_changes h' with
      ⟨rfl, s', rfl⟩ | ⟨rfl, s', rfl⟩ | ⟨rfl, s', rfl⟩ | ⟨rfl, k', rfl⟩ | rfl <;>
    first
      | rfl
      | exact absurd rfl hne

end ChannelEntry

namespace AdapterEntry

theorem cases_of_changes {number : Nat} {change : AdapterEntry → AdapterEntry}
    (h : rule.Changes number change) :
    (number = 1 ∧ ∃ s, change = fun e => { e with name := s }) ∨
      (number = 2 ∧ ∃ live, change = fun e => { e with live }) ∨
      (number = 3 ∧ ∃ s, change = fun e => { e with description := s }) ∨
      (number = 4 ∧ ∃ s, change = fun e => { e with stats := e.stats ++ [s] }) ∨ change = id := by
  simp only [Changes, rule] at h
  split at h
  · exact .inr (.inr (.inr (.inr h)))
  · rename_i f hf
    obtain ⟨value, h⟩ := h
    split at hf <;> cases hf
    · exact .inl ⟨rfl, FieldRule.exists_of_takes_text h⟩
    · obtain ⟨n, rfl⟩ := FieldRule.exists_of_takes_varint h
      exact .inr (.inl ⟨rfl, _, rfl⟩)
    · exact .inr (.inr (.inl ⟨rfl, FieldRule.exists_of_takes_text h⟩))
    · exact .inr (.inr (.inr (.inl ⟨rfl, FieldRule.exists_of_takes_text h⟩)))

theorem commutes_rule : rule.Commutes := by
  intro m n change change' hne h h' e
  rcases cases_of_changes h with
    ⟨rfl, s, rfl⟩ | ⟨rfl, k, rfl⟩ | ⟨rfl, s, rfl⟩ | ⟨rfl, s, rfl⟩ | rfl <;>
    rcases cases_of_changes h' with
      ⟨rfl, s', rfl⟩ | ⟨rfl, k', rfl⟩ | ⟨rfl, s', rfl⟩ | ⟨rfl, s', rfl⟩ | rfl <;>
    first
      | rfl
      | exact absurd rfl hne

end AdapterEntry

namespace Resource

/-- The fields of an entry. -/
def entryRule : (r : Resource) → Rule r.Entry
  | .channels => ChannelEntry.rule
  | .adapters => AdapterEntry.rule

theorem isLocal_entryRule (r : Resource) : r.entryRule.IsLocal := by
  intro number f hf
  cases r with
  | channels =>
      simp only [entryRule, ChannelEntry.rule] at hf
      split at hf <;> cases hf
      · exact FieldRule.isLocal_text _ _
      · exact FieldRule.isLocal_text _ _
      · exact FieldRule.isLocal_text _ _
      · exact FieldRule.isLocal_varint _ _
  | adapters =>
      simp only [entryRule, AdapterEntry.rule] at hf
      split at hf <;> cases hf
      · exact FieldRule.isLocal_text _ _
      · exact FieldRule.isLocal_varint _ _
      · exact FieldRule.isLocal_text _ _
      · exact FieldRule.isLocal_text _ _

theorem commutes_entryRule (r : Resource) : r.entryRule.Commutes := by
  cases r with
  | channels => exact ChannelEntry.commutes_rule
  | adapters => exact AdapterEntry.commutes_rule

/-- An entry of which nothing has been read. -/
def emptyEntry : (r : Resource) → r.Entry
  | .channels => {}
  | .adapters => {}

/-- A listing declares one field: its entries. -/
theorem exists_field?_rule (r : Resource) :
    ∃ name, r.rule.field? 1 =
      some (.message name r.entryRule r.emptyEntry fun e m => m ++ [e]) := by
  cases r <;> exact ⟨_, rfl⟩

theorem field?_rule_of_ne (r : Resource) {number : Nat} (h : number ≠ 1) :
    r.rule.field? number = none := by
  cases r <;> simp only [rule]

theorem isLocal_rule (r : Resource) : r.rule.IsLocal := by
  intro number f hf
  obtain ⟨name, hentries⟩ := r.exists_field?_rule
  by_cases h : number = 1
  · rw [h, hentries] at hf
    cases hf
    exact FieldRule.isLocal_message r.isLocal_entryRule
  · rw [r.field?_rule_of_ne h] at hf
    cases hf

theorem eq_id_of_changes_rule (r : Resource) {number : Nat} {change : r.Message → r.Message}
    (h : number ≠ 1) (hchange : r.rule.Changes number change) : change = id := by
  rwa [Changes, r.field?_rule_of_ne h] at hchange

theorem commutes_rule (r : Resource) : r.rule.Commutes := by
  intro m n change change' hne h h' a
  by_cases hm : m = 1
  · rw [r.eq_id_of_changes_rule (fun hn => hne (hm.trans hn.symm)) h']
    rfl
  · rw [r.eq_id_of_changes_rule hm h]
    rfl

section Record

variable {r : Resource} {key length octets : List UInt8} {fields : List (List UInt8)} {e : r.Entry}
  {change : r.Message → r.Message}

/-- A record of a listing is read as its fields are read one by one. -/
theorem takes_record (hkey : IsKey key ⟨1, .lengthDelimited⟩)
    (hlength : IsVarint length fields.flatten.length)
    (h : r.entryRule.ReadsAll (maxDepth - 1) fields r.emptyEntry e) :
    Takes (r.rule.readNext maxDepth) (key ++ (length ++ fields.flatten))
      (1, fun m => m ++ [e]) := by
  obtain ⟨name, hentries⟩ := r.exists_field?_rule
  exact takes_readNext_of_declared hentries hkey (FieldRule.takes_message hlength h) maxDepth

theorem exists_of_record {wireType : WireType}
    (h : r.rule.readField maxDepth ⟨1, wireType⟩ octets = .ok (change, [])) :
    wireType = .lengthDelimited ∧ ∃ length fields e, octets = length ++ fields.flatten ∧
      IsVarint length fields.flatten.length ∧
      r.entryRule.ReadsAll (maxDepth - 1) fields r.emptyEntry e ∧ change = fun m => m ++ [e] := by
  obtain ⟨name, hentries⟩ := r.exists_field?_rule
  obtain ⟨htype, hvalue⟩ := value_of_readField hentries h
  obtain ⟨length, fields, e, heq, hlength, hread, hchange⟩ :=
    FieldRule.of_value_message_eq_ok r.isLocal_entryRule hvalue
  exact ⟨htype, length, fields, e, by rw [heq, List.append_nil], hlength, hread, hchange⟩

end Record

/-! ### Extensions -/

/-- The octets are a record of a listing, made of these fields. -/
def IsRecord (key : List UInt8) (fields : List (List UInt8)) (octets : List UInt8) : Prop :=
  ∃ length, octets = key ++ (length ++ fields.flatten) ∧ IsKey key ⟨1, .lengthDelimited⟩ ∧
    IsVarint length fields.flatten.length ∧ IsCut (maxDepth - 1) fields.flatten fields

/-- The second field is the first one, or both are records, and the second one has the fields of the
first, rearranged among fields that a record does not declare. -/
inductive ExtendsField (r : Resource) : List UInt8 → List UInt8 → Prop
  | same (field : List UInt8) : ExtendsField r field field
  | record {key field field' : List UInt8} {fields fields' : List (List UInt8)} :
      IsRecord key fields field → r.entryRule.Rearranged (maxDepth - 1) fields fields' →
      IsRecord key fields' field' → ExtendsField r field field'

/-- The second message is the first one, with fields that are not declared between its fields and
between the fields of its records, and with the fields of each record in another order. -/
def Extends (r : Resource) (octets octets' : List UInt8) : Prop :=
  ∃ fields middle fields', IsCut maxDepth octets fields ∧
    List.Forall₂ r.ExtendsField fields middle ∧
    r.rule.Rearranged maxDepth middle fields' ∧ octets' = fields'.flatten

variable {r : Resource} {field field' : List UInt8} {fields fields' : List (List UInt8)}
  {m m' : r.Message} {number : Nat} {change : r.Message → r.Message}

theorem ExtendsField.takes (h : r.ExtendsField field field')
    (hread : Takes (r.rule.readNext maxDepth) field (number, change)) :
    Takes (r.rule.readNext maxDepth) field' (number, change) := by
  cases h with
  | same => exact hread
  | record hrecord hmore hrecord' =>
      obtain ⟨length, rfl, hkey, hlength, hcut⟩ := hrecord
      obtain ⟨length', rfl, -, hlength', -⟩ := hrecord'
      obtain ⟨front, value, wireType, heq, hfront, hvalue⟩ := exists_key_of_takes hread
      obtain ⟨rfl, rfl⟩ := Key.isLocal_read.eq_of_append_eq hkey.takes.whole hfront.takes.whole heq
      have hnumber := hkey.takes.whole.symm.trans hfront.takes.whole
      cases hnumber
      obtain ⟨-, start, parts, e, hcontent, hstart, hparts, rfl⟩ := exists_of_record hvalue
      obtain ⟨rfl, heq'⟩ := isLocal_readVarint.eq_of_append_eq hlength hstart hcontent
      have hfields := hparts.of_isCut r.isLocal_entryRule (heq' ▸ hcut)
      exact takes_record hkey hlength'
        (hfields.rearranged r.isLocal_entryRule r.commutes_entryRule hmore)

theorem readsAll_of_extends (h : List.Forall₂ r.ExtendsField fields fields')
    (hread : r.rule.ReadsAll maxDepth fields m m') : r.rule.ReadsAll maxDepth fields' m m' := by
  induction h generalizing m with
  | nil => exact hread
  | cons hfield _ ih =>
      cases hread with
      | cons htakes hrest => exact .cons (hfield.takes htakes) (ih hrest)

/-- Every record of a listing that is read is cut into fields. -/
theorem exists_isRecord (h : r.rule.ReadsAll maxDepth fields m m') (hmem : field ∈ fields)
    (hfield : IsField maxDepth 1 field) : ∃ key parts, IsRecord key parts field := by
  induction h with
  | nil m => cases hmem
  | @cons first fields number change m m' hread hfields ih =>
      rcases List.mem_cons.1 hmem with rfl | hmem
      · obtain ⟨field', heq, hfield', -⟩ := of_readNext r.isLocal_rule hread.whole
        rw [List.append_nil] at heq
        obtain rfl := hfield.number_unique (heq ▸ hfield')
        obtain ⟨key, value, wireType, rfl, hkey, hvalue⟩ := exists_key_of_takes hread
        obtain ⟨rfl, length, parts, e, rfl, hlength, hparts, -⟩ := exists_of_record hvalue
        exact ⟨key, parts, length, rfl, hkey, hlength, rfl, hparts.isField r.isLocal_entryRule⟩
      · exact ih hmem

/-- Octets that are read as a listing fall into fields in one way, and so do their records. Whatever
fields are put between them that are not declared there, varints, 64-bit, 32-bit and
length-delimited ones, and however the fields of a record are ordered that have different numbers:
the octets are read as the same listing. -/
theorem later_messages_read_alike (r : Resource) {octets : List UInt8} {m : r.Message}
    (h : r.decode octets = .ok m) :
    (∃! fields, IsCut maxDepth octets fields) ∧
    (∀ fields, IsCut maxDepth octets fields → ∀ field ∈ fields, IsField maxDepth 1 field →
      ∃ key parts, IsRecord key parts field) ∧
    ∀ octets', r.Extends octets octets' →
      r.decode octets' = .ok m ∧ (r.decode octets').map r.listing = .ok (r.listing m) := by
  obtain ⟨fields, rfl, hread⟩ := (decode_eq_ok_iff r.isLocal_rule).1 h
  have hcut : IsCut maxDepth fields.flatten fields := ⟨rfl, hread.isField r.isLocal_rule⟩
  refine ⟨⟨fields, hcut, fun fields' hcut' => hcut'.unique hcut⟩, ?records, ?extensions⟩
  case records =>
    intro fields' hcut' field hmem hfield
    exact exists_isRecord (hcut'.unique hcut ▸ hread) hmem hfield
  case extensions =>
    rintro octets' ⟨fields', middle, last, hcut', hmiddle, hlast, rfl⟩
    obtain rfl := hcut.unique hcut'
    have hread' :=
      (readsAll_of_extends hmiddle hread).rearranged r.isLocal_rule r.commutes_rule hlast
    have hdecode : r.decode last.flatten = .ok m :=
      (decode_eq_ok_iff r.isLocal_rule).2 ⟨last, rfl, hread'⟩
    exact ⟨hdecode, by rw [hdecode]; rfl⟩

/-- A channel with its count before its topic, a 64-bit field between them and a length-delimited
one behind them, all of it in a length of one octet more than it needs, between a varint and a
32-bit field. -/
theorem later_messages_read_alike_on_both_levels :
    let topic : List UInt8 := [0x0a, 0x01, 0x61]
    let count : List UInt8 := [0x20, 0x05]
    let inside : List UInt8 := [0x49, 1, 2, 3, 4, 5, 6, 7, 8]
    let behind : List UInt8 := [0x32, 0x02, 0xff, 0xfe]
    let before : List UInt8 := [0x38, 0xac, 0x02]
    let after : List UInt8 := [0x15, 1, 2, 3, 4]
    let octets : List UInt8 := [0x0a] ++ ([0x05] ++ (topic ++ count))
    let record : List UInt8 :=
      [0x0a] ++ ([0x92, 0x00] ++ (count ++ (inside ++ (topic ++ behind))))
    let octets' : List UInt8 := before ++ record ++ after
    let m : Resource.channels.Message := [{ topic := "a", messageCount := 5 }]
    Resource.channels.decode octets = .ok m ∧ Resource.channels.Extends octets octets' ∧
      Resource.channels.decode octets' = .ok m := by
  intro topic count inside behind before after octets record octets' m
  have hdecode : Resource.channels.decode octets = .ok m := by decide +kernel
  have hkey : IsKey [0x0a] ⟨1, .lengthDelimited⟩ := ⟨10, by decide +kernel, rfl⟩
  have hbefore : IsPlainField 7 before :=
    ⟨.varint, [0x38], [0xac, 0x02], rfl, ⟨56, by decide +kernel, rfl⟩,
      .varint (show IsVarint _ 300 by decide +kernel)⟩
  have hafter : IsPlainField 2 after :=
    ⟨.thirtyTwoBit, [0x15], [1, 2, 3, 4], rfl, ⟨21, by decide +kernel, rfl⟩, .thirtyTwoBit rfl⟩
  have hinside : IsPlainField 9 inside :=
    ⟨.sixtyFourBit, [0x49], [1, 2, 3, 4, 5, 6, 7, 8], rfl, ⟨73, by decide +kernel, rfl⟩,
      .sixtyFourBit rfl⟩
  have hbehind : IsPlainField 6 behind :=
    ⟨.lengthDelimited, [0x32], [0x02] ++ [0xff, 0xfe], rfl, ⟨50, by decide +kernel, rfl⟩,
      .lengthDelimited (by decide +kernel)⟩
  have htopic : IsField (maxDepth - 1) 1 topic := by decide +kernel
  have hcount : IsField (maxDepth - 1) 4 count := by decide +kernel
  have hparts : ChannelEntry.rule.Rearranged (maxDepth - 1) [topic, count]
      [count, inside, topic, behind] := by
    refine .insert [count, inside, topic] [] rfl hbehind ?_
    refine .insert [count] [topic] rfl hinside ?_
    exact .swap [] [] (by decide) htopic hcount .same
  have hrecord : IsRecord [0x0a] [topic, count] octets :=
    ⟨[0x05], rfl, hkey, by decide +kernel, rfl, by
      simpa using ⟨⟨1, htopic⟩, ⟨4, hcount⟩⟩⟩
  have hrecord' : IsRecord [0x0a] [count, inside, topic, behind] record :=
    ⟨[0x92, 0x00], rfl, hkey, by decide +kernel, rfl, by
      simpa using ⟨⟨4, hcount⟩, ⟨9, hinside.isField 98⟩, ⟨1, htopic⟩, ⟨6, hbehind.isField 98⟩⟩⟩
  have hextends : Resource.channels.Extends octets octets' := by
    refine ⟨[octets], [record], [before, record, after], ⟨rfl, ?_⟩,
      .cons (.record hrecord hparts hrecord') .nil, ?_, rfl⟩
    · simpa using ⟨1, by decide +kernel⟩
    · refine .insert [before, record] [] rfl hafter ?_
      exact .insert [] [record] rfl hbefore .same
  exact ⟨hdecode, hextends, ((later_messages_read_alike .channels hdecode).2.2 _ hextends).1⟩

end Resource

end BrokerMonitor
