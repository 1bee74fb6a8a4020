import BrokerMonitor.Proofs.Wire.Extents
import BrokerMonitor.Wire.Rule
/-!
# Messages read field by field

Reading a message is reading its fields one by one, each with what it does to the message so far:
`ReadsAll` states this of octets that are already cut into fields, and `decode_eq_ok_iff` says that
nothing else is read. Texts, numbers and messages inside messages are local, which is all that this
needs of a declared field.
-/

namespace BrokerMonitor.Wire

variable {α β : Type}

/-- The field's value is one of its wire type, and what is read of it does not depend on what
follows it. -/
def FieldRule.IsLocal (f : FieldRule α) : Prop :=
  ∀ ⦃octets rest change⦄, f.value octets = .ok (change, rest) →
    ∃ taken, octets = taken ++ rest ∧ IsValue f.wireType taken ∧ Takes f.value taken change

namespace Rule

variable {rule : Rule α} {depth : Nat} {a b c : α} {fields more : List (List UInt8)}

/-- Every field that is declared is local. -/
def IsLocal (rule : Rule α) : Prop := ∀ ⦃number f⦄, rule.field? number = some f → f.IsLocal

/-- What a field of this number can do to the message: nothing if it is not declared. -/
def Changes (rule : Rule α) (number : Nat) (change : α → α) : Prop :=
  match rule.field? number with
  | none => change = id
  | some f => ∃ value, Takes f.value value change

/-- Reads one field with its key, and gives its number with what it does. -/
def readNext (rule : Rule α) (depth : Nat) : Decoder (Nat × (α → α)) := fun octets => do
  let (key, rest) ← Reader.located Key.read octets
  let (change, rest) ← rule.readField depth key rest
  return ((key.field, change), rest)

theorem readFields_succ {after turns : Nat} {octets : List UInt8} (h : after < octets.length) :
    rule.readFields depth after (turns + 1) a octets =
      rule.readNext depth octets >>= fun x => rule.readFields depth after turns (x.1.2 a) x.2 := by
  rw [readFields, if_neg (Nat.not_le.2 h), readNext]
  cases Reader.located Key.read octets with
  | error e => rfl
  | ok key =>
      show (rule.readField depth key.1 key.2 >>= _) =
        ((rule.readField depth key.1 key.2 >>= _) >>= _)
      cases rule.readField depth key.1 key.2 <;> rfl

theorem value_of_readField {key : Key} {f : FieldRule α} {octets rest : List UInt8} {change : α → α}
    (hf : rule.field? key.field = some f)
    (h : rule.readField depth key octets = .ok (change, rest)) :
    key.wireType = f.wireType ∧ f.value octets = .ok (change, rest) := by
  simp only [readField, hf] at h
  have h := mapError_eq_ok_iff.1 h
  split at h
  · exact ⟨‹_›, h⟩
  · cases h

theorem of_readField (hrule : rule.IsLocal) {key : Key} {octets rest : List UInt8} {change : α → α}
    (h : rule.readField (depth + 1) key octets = .ok (change, rest)) :
    ∃ value, octets = value ++ rest ∧ Takes (rule.readField (depth + 1) key) value change ∧
      Takes (skipField (depth + 1) key) value () ∧ rule.Changes key.field change := by
  cases hf : rule.field? key.field with
  | none =>
      simp only [readField, hf] at h
      obtain ⟨⟨⟨⟩, after⟩, hskip, h⟩ := bind_eq_ok_iff.1 h
      cases h
      obtain ⟨value, rfl, hvalue⟩ := isLocal_skipField _ _ (located_eq_ok_iff.1 hskip)
      refine ⟨value, rfl, fun more => ?_, hvalue, by rw [Changes, hf]⟩
      have hread := located_eq_ok_iff.2 (hvalue more)
      simp [readField, hf, hread, bind, Except.bind, pure, Except.pure]
  | some f =>
      obtain ⟨htype, hread⟩ := value_of_readField hf h
      obtain ⟨value, rfl, hvalue, htaken⟩ := hrule hf hread
      obtain ⟨number, wireType⟩ := key
      cases htype
      refine ⟨value, rfl, fun more => ?_, hvalue.takes_skipField depth number, ?_⟩
      · simp [readField, hf, htaken more, Except.mapError]
      · rw [Changes, hf]
        exact ⟨value, htaken⟩

theorem of_readNext (hrule : rule.IsLocal) {number : Nat} {octets rest : List UInt8}
    {change : α → α} (h : rule.readNext (depth + 1) octets = .ok ((number, change), rest)) :
    ∃ field, octets = field ++ rest ∧ IsField (depth + 1) number field ∧
      Takes (rule.readNext (depth + 1)) field (number, change) ∧ rule.Changes number change := by
  obtain ⟨⟨key, middle⟩, hkey, h⟩ := bind_eq_ok_iff.1 h
  obtain ⟨⟨change', after⟩, hfield, h⟩ := bind_eq_ok_iff.1 h
  cases h
  obtain ⟨front, rfl, hfront⟩ := Key.isLocal_read (located_eq_ok_iff.1 hkey)
  obtain ⟨value, rfl, htaken, hskip, hchange⟩ := of_readField hrule hfield
  refine ⟨front ++ value, by simp, isField_of_key (isKey_of_takes hfront) hskip,
    fun more => ?_, hchange⟩
  have hread := located_eq_ok_iff.2 (hfront (value ++ more))
  simp [readNext, List.append_assoc, hread, htaken more, bind, Except.bind, pure, Except.pure]

/-- These fields, read one by one, take the message from `a` to `b`. -/
inductive ReadsAll (rule : Rule α) (depth : Nat) : List (List UInt8) → α → α → Prop
  | nil (a : α) : ReadsAll rule depth [] a a
  | cons {field : List UInt8} {fields : List (List UInt8)} {number : Nat} {change : α → α}
      {a b : α} :
      Takes (rule.readNext depth) field (number, change) →
      ReadsAll rule depth fields (change a) b → ReadsAll rule depth (field :: fields) a b

namespace ReadsAll

theorem append_iff :
    rule.ReadsAll depth (fields ++ more) a c ↔
      ∃ b, rule.ReadsAll depth fields a b ∧ rule.ReadsAll depth more b c := by
  induction fields generalizing a with
  | nil =>
      constructor
      · exact fun h => ⟨a, .nil a, h⟩
      · rintro ⟨b, hfields, hmore⟩
        cases hfields
        exact hmore
  | cons field fields ih =>
      constructor
      · intro h
        cases h with
        | cons hfield hrest =>
            obtain ⟨b, hfields, hmore⟩ := ih.1 hrest
            exact ⟨b, .cons hfield hfields, hmore⟩
      · rintro ⟨b, hfields, hmore⟩
        cases hfields with
        | cons hfield hfields => exact .cons hfield (ih.2 ⟨b, hfields, hmore⟩)

/-- Fields that are read one by one are read together, whatever follows them. -/
theorem readFields (h : rule.ReadsAll depth fields a b) {turns : Nat}
    (hturns : fields.flatten.length ≤ turns) (rest : List UInt8) :
    rule.readFields depth rest.length turns a (fields.flatten ++ rest) = .ok (b, rest) := by
  induction h generalizing turns with
  | nil a => cases turns <;> simp [Rule.readFields]
  | @cons field fields number change a b hfield hfields ih =>
      have hpos : 0 < field.length := by
        obtain ⟨⟨key, middle⟩, hkey, -⟩ := bind_eq_ok_iff.1 hfield.whole
        have := Key.length_of_read (located_eq_ok_iff.1 hkey)
        omega
      rw [List.flatten_cons, List.length_append] at hturns
      obtain ⟨turns, rfl⟩ := Nat.exists_eq_add_one_of_ne_zero (show turns ≠ 0 by omega)
      rw [List.flatten_cons, List.append_assoc,
        readFields_succ (by simp only [List.length_append]; omega), hfield]
      exact ih (by omega)

end ReadsAll

theorem ReadsAll.isField (hrule : rule.IsLocal) (h : rule.ReadsAll (depth + 1) fields a b) :
    ∀ field ∈ fields, ∃ number, IsField (depth + 1) number field := by
  induction h with
  | nil a => simp
  | cons hfield hfields ih =>
      obtain ⟨field, heq, hfield, -⟩ := of_readNext hrule hfield.whole
      rw [List.append_nil] at heq
      exact List.forall_mem_cons.2 ⟨⟨_, heq ▸ hfield⟩, ih⟩

/-- What is read together can be cut into fields that are read one by one. -/
theorem exists_readsAll (hrule : rule.IsLocal) {after turns : Nat} {octets rest : List UInt8}
    (h : rule.readFields (depth + 1) after turns a octets = .ok (b, rest))
    (hturns : octets.length ≤ turns) :
    ∃ fields, octets = fields.flatten ++ rest ∧ rule.ReadsAll (depth + 1) fields a b ∧
      rest.length ≤ after := by
  induction turns generalizing a octets with
  | zero =>
      cases h
      exact ⟨[], rfl, .nil _, by omega⟩
  | succ turns ih =>
      by_cases hlen : octets.length ≤ after
      · rw [readFields, if_pos hlen] at h
        cases h
        exact ⟨[], rfl, .nil _, hlen⟩
      · rw [readFields_succ (Nat.not_le.1 hlen)] at h
        obtain ⟨⟨⟨number, change⟩, middle⟩, hnext, hlater⟩ := bind_eq_ok_iff.1 h
        obtain ⟨field, rfl, hfield, htaken, -⟩ := of_readNext hrule hnext
        have hpos := List.length_pos_iff.2 hfield.ne_nil
        rw [List.length_append] at hturns
        obtain ⟨fields, rfl, hfields, hrest⟩ := ih hlater (show middle.length ≤ turns by omega)
        exact ⟨field :: fields, by simp, .cons htaken hfields, hrest⟩

/-- There is one way only to cut octets into fields, so any cut is the one that is read. -/
theorem ReadsAll.of_isCut (hrule : rule.IsLocal) (h : rule.ReadsAll (depth + 1) more a b)
    (hcut : IsCut (depth + 1) more.flatten fields) : rule.ReadsAll (depth + 1) fields a b :=
  IsCut.unique ⟨rfl, h.isField hrule⟩ hcut ▸ h

theorem decode_eq_ok_iff (hrule : rule.IsLocal) {empty : α} {octets : List UInt8} :
    rule.decode empty octets = .ok a ↔
      ∃ fields, octets = fields.flatten ∧ rule.ReadsAll maxDepth fields empty a := by
  constructor
  · intro h
    unfold decode at h
    cases hfields : rule.readFields maxDepth 0 octets.length empty octets with
    | error e => simp [hfields, Except.map] at h
    | ok r =>
        obtain ⟨b, rest⟩ := r
        simp only [hfields, Except.map, Except.ok.injEq] at h
        obtain ⟨fields, heq, hread, hrest⟩ := exists_readsAll hrule hfields le_rfl
        rw [List.length_eq_zero_iff.1 (Nat.le_zero.1 hrest), List.append_nil] at heq
        exact ⟨fields, heq, h ▸ hread⟩
  · rintro ⟨fields, rfl, hread⟩
    have hfields := hread.readFields le_rfl []
    rw [List.append_nil] at hfields
    simp only [List.length_nil] at hfields
    rw [decode, hfields]
    rfl

/-! ### One field -/

/-- A plain field that is not declared is read as no change. -/
theorem takes_readNext_of_undeclared {number : Nat} {field : List UInt8}
    (hnone : rule.field? number = none) (h : IsPlainField number field) (depth : Nat) :
    Takes (rule.readNext (depth + 1)) field (number, id) := by
  obtain ⟨wireType, front, value, rfl, hkey, hvalue⟩ := h
  intro more
  have hfront := located_eq_ok_iff.2 (hkey.takes (value ++ more))
  have hskip := located_eq_ok_iff.2 (hvalue.takes_skipField depth number more)
  simp [readNext, readField, List.append_assoc, hfront, hnone, hskip, bind, Except.bind, pure,
    Except.pure]

/-- A declared field is read when its value is. -/
theorem takes_readNext_of_declared {f : FieldRule α} {number : Nat} {key value : List UInt8}
    {change : α → α} (hf : rule.field? number = some f) (hkey : IsKey key ⟨number, f.wireType⟩)
    (h : Takes f.value value change) (depth : Nat) :
    Takes (rule.readNext depth) (key ++ value) (number, change) := by
  intro more
  have hfront := located_eq_ok_iff.2 (hkey.takes (value ++ more))
  simp [readNext, readField, List.append_assoc, hfront, hf, h more, Except.mapError, bind,
    Except.bind, pure, Except.pure]

theorem exists_key_of_takes {number : Nat} {field : List UInt8} {change : α → α}
    (h : Takes (rule.readNext depth) field (number, change)) :
    ∃ key value wireType, field = key ++ value ∧ IsKey key ⟨number, wireType⟩ ∧
      rule.readField depth ⟨number, wireType⟩ value = .ok (change, []) := by
  obtain ⟨⟨key, value⟩, hkey, hread⟩ := bind_eq_ok_iff.1 h.whole
  obtain ⟨⟨change', rest⟩, hfield, hread⟩ := bind_eq_ok_iff.1 hread
  cases hread
  obtain ⟨front, rfl, hfront⟩ := Key.isLocal_read (located_eq_ok_iff.1 hkey)
  exact ⟨front, value, key.wireType, rfl, isKey_of_takes hfront, hfield⟩

/-- A field that is read is read under its number, and does what fields of that number do. -/
theorem changes_of_takes (hrule : rule.IsLocal) {number number' : Nat} {field : List UInt8}
    {change : α → α} (h : Takes (rule.readNext (depth + 1)) field (number', change))
    (hfield : IsField (depth + 1) number field) : rule.Changes number change := by
  obtain ⟨field', heq, hfield', -, hchange⟩ := of_readNext hrule h.whole
  rw [List.append_nil] at heq
  subst heq
  rwa [hfield.number_unique hfield']

end Rule

/-! ### The values that messages declare -/

namespace FieldRule

open Rule

theorem isLocal_varint (name : String) (put : UInt64 → α → α) : (varint name put).IsLocal := by
  intro octets rest change h
  obtain ⟨⟨n, after⟩, hn, h⟩ := bind_eq_ok_iff.1 h
  cases h
  obtain ⟨taken, rfl, htaken⟩ := isLocal_readVarint (located_eq_ok_iff.1 hn)
  refine ⟨taken, rfl, .varint htaken.whole, fun more => ?_⟩
  have hread := located_eq_ok_iff.2 (htaken more)
  simp [varint, hread, bind, Except.bind, pure, Except.pure]

/-- A length is read where as many octets follow it. -/
theorem readLength_append {length content : List UInt8} (h : IsVarint length content.length)
    (more : List UInt8) :
    readLength (length ++ (content ++ more)) = .ok (content.length, content ++ more) := by
  simp [readLength, h.takes (content ++ more), bind, Except.bind]

theorem of_readLength_eq_ok {count : Nat} {octets rest : List UInt8}
    (h : readLength octets = .ok (count, rest)) :
    ∃ length content more, octets = length ++ (content ++ more) ∧ rest = content ++ more ∧
      content.length = count ∧ IsVarint length content.length := by
  obtain ⟨⟨n, after⟩, hn, hfits⟩ := bind_eq_ok_iff.1 h
  obtain ⟨length, rfl, hlength⟩ := isLocal_readVarint hn
  dsimp only at hfits
  split at hfits
  · cases hfits
  · rename_i hcount
    cases hfits
    have hlen := List.length_take_of_le (Nat.not_lt.1 hcount)
    refine ⟨length, rest.take count, rest.drop count, by rw [List.take_append_drop],
      (List.take_append_drop _ _).symm, hlen, ?_⟩
    rw [hlen]
    exact hlength.whole

theorem isLocal_text (name : String) (put : String → α → α) : (text name put).IsLocal := by
  intro octets rest change h
  obtain ⟨⟨s, after⟩, hs, h⟩ := bind_eq_ok_iff.1 h
  cases h
  obtain ⟨⟨count, middle⟩, hcount, hs⟩ := bind_eq_ok_iff.1 (located_eq_ok_iff.1 hs)
  obtain ⟨length, content, more, rfl, rfl, rfl, hlength⟩ := of_readLength_eq_ok hcount
  simp only [List.take_left, List.drop_left] at hs
  split at hs
  · rename_i s' hdecode
    cases hs
    refine ⟨length ++ content, by simp, .lengthDelimited hlength, fun more => ?_⟩
    have hread : readText.located (length ++ (content ++ more)) = .ok (s, more) :=
      located_eq_ok_iff.2 (by
        simp [readText, readLength_append hlength more, hdecode, bind, Except.bind, pure,
          Except.pure])
    simp [text, List.append_assoc, hread, bind, Except.bind, pure, Except.pure]
  · cases hs

section Message

variable {inner : Rule β} {empty b : β} {name : String} {put : β → α → α}
  {fields : List (List UInt8)} {length octets rest : List UInt8} {change : α → α}

/-- A message inside a message is read as its fields are read one by one. -/
theorem takes_message (hlength : IsVarint length fields.flatten.length)
    (h : inner.ReadsAll (maxDepth - 1) fields empty b) :
    Takes (message name inner empty put).value (length ++ fields.flatten) (put b) := by
  intro more
  have hread := located_eq_ok_iff.2 (readLength_append hlength more)
  have hlong : fields.flatten.length ≤ (fields.flatten ++ more).length := by
    rw [List.length_append]; omega
  have hfields := h.readFields hlong more
  have hafter : (fields.flatten ++ more).length - fields.flatten.length = more.length := by simp
  have hinner : inner.readInner empty (maxDepth - 1) (length ++ (fields.flatten ++ more)) =
      .ok (b, more) := by
    rw [readInner, hread]
    simp only [bind, Except.bind, hafter, hfields, if_true]
  simp only [message, List.append_assoc, hinner, bind, Except.bind, pure, Except.pure]

theorem of_value_message_eq_ok (hinner : inner.IsLocal)
    (h : (message name inner empty put).value octets = .ok (change, rest)) :
    ∃ length fields b, octets = length ++ fields.flatten ++ rest ∧
      IsVarint length fields.flatten.length ∧
      inner.ReadsAll (maxDepth - 1) fields empty b ∧ change = put b := by
  obtain ⟨⟨b, after⟩, hb, h⟩ := bind_eq_ok_iff.1 h
  cases h
  obtain ⟨⟨count, start⟩, hcount, hb⟩ := bind_eq_ok_iff.1 hb
  obtain ⟨length, content, more, rfl, rfl, rfl, hlength⟩ :=
    of_readLength_eq_ok (located_eq_ok_iff.1 hcount)
  obtain ⟨⟨c, tail⟩, hfields, hb⟩ := bind_eq_ok_iff.1 hb
  dsimp only at hb
  split at hb
  · rename_i hend
    cases hb
    obtain ⟨fields, heq, hread, -⟩ := exists_readsAll hinner hfields le_rfl
    have hmore : more.length = rest.length := by
      rw [hend, List.length_append]
      omega
    obtain ⟨rfl, rfl⟩ := List.append_inj' heq hmore
    exact ⟨length, fields, b, by simp, hlength, hread, rfl⟩
  · cases hb

theorem isLocal_message (hinner : inner.IsLocal) : (message name inner empty put).IsLocal := by
  intro octets rest change h
  obtain ⟨length, fields, b, rfl, hlength, hread, rfl⟩ := of_value_message_eq_ok hinner h
  exact ⟨length ++ fields.flatten, rfl, .lengthDelimited hlength, takes_message hlength hread⟩

end Message

theorem exists_of_takes_varint {name : String} {put : UInt64 → α → α} {octets : List UInt8}
    {change : α → α}
    (h : Takes (varint name put).value octets change) : ∃ n, change = put n := by
  obtain ⟨⟨n, after⟩, -, hput⟩ := bind_eq_ok_iff.1 h.whole
  cases hput
  exact ⟨_, rfl⟩

theorem exists_of_takes_text {name : String} {put : String → α → α} {octets : List UInt8}
    {change : α → α}
    (h : Takes (text name put).value octets change) : ∃ s, change = put s := by
  obtain ⟨⟨s, after⟩, -, hput⟩ := bind_eq_ok_iff.1 h.whole
  cases hput
  exact ⟨s, rfl⟩

end FieldRule

end BrokerMonitor.Wire
