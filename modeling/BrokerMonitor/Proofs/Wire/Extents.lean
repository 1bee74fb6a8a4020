import BrokerMonitor.Proofs.Wire.Reading
/-!
# How far a reading goes

A reading that succeeds has taken octets from the front, and what follows them has no say in it:
`IsLocal` states this of a reader, and it composes like the readers do. So the octets of a message
fall into fields in one way only, whatever the message declares.
-/

namespace BrokerMonitor.Wire

variable {ε α β : Type}

/-- The reader takes these octets and gives `a`, whatever follows them. -/
def Takes (r : List UInt8 → Except ε (α × List UInt8)) (taken : List UInt8) (a : α) : Prop :=
  ∀ more, r (taken ++ more) = .ok (a, more)

/-- What the reader takes does not depend on what follows it. -/
def IsLocal (r : List UInt8 → Except ε (α × List UInt8)) : Prop :=
  ∀ ⦃octets rest a⦄, r octets = .ok (a, rest) → ∃ taken, octets = taken ++ rest ∧ Takes r taken a

theorem Takes.whole {r : List UInt8 → Except ε (α × List UInt8)} {taken : List UInt8} {a : α}
    (h : Takes r taken a) : r taken = .ok (a, []) := by
  simpa using h []

theorem Takes.bind {r : List UInt8 → Except ε (α × List UInt8)}
    {s : α → List UInt8 → Except ε (β × List UInt8)} {front back : List UInt8} {a : α} {b : β}
    (h : Takes r front a) (h' : Takes (s a) back b) :
    Takes (fun octets => r octets >>= fun x => s x.1 x.2) (front ++ back) b := by
  intro more
  show (r (front ++ back ++ more) >>= fun x => s x.1 x.2) = _
  rw [List.append_assoc, h]
  exact h' more

namespace IsLocal

variable {r : List UInt8 → Except ε (α × List UInt8)}

theorem takes (h : IsLocal r) {octets : List UInt8} {a : α} (hr : r octets = .ok (a, [])) :
    Takes r octets a := by
  obtain ⟨taken, rfl, htaken⟩ := h hr
  rwa [List.append_nil]

/-- Two takings from the front of the same octets are the same. -/
theorem eq_of_append_eq (h : IsLocal r) {octets octets' rest rest' : List UInt8} {a a' : α}
    (hr : r octets = .ok (a, [])) (hr' : r octets' = .ok (a', []))
    (heq : octets ++ rest = octets' ++ rest') : octets = octets' ∧ rest = rest' := by
  have hread := h.takes hr rest
  rw [heq, h.takes hr' rest'] at hread
  cases hread
  exact ⟨List.append_cancel_right heq, rfl⟩

theorem pure (a : α) : IsLocal (fun octets => (.ok (a, octets) : Except ε (α × List UInt8))) := by
  intro octets rest b h
  cases h
  exact ⟨[], rfl, fun more => rfl⟩

theorem error (e : ε) : IsLocal (fun _ => (.error e : Except ε (α × List UInt8))) := by
  intro octets rest a h
  cases h

theorem bind (h : IsLocal r) {s : α → List UInt8 → Except ε (β × List UInt8)}
    (hs : ∀ a, IsLocal (s a)) : IsLocal (fun octets => r octets >>= fun x => s x.1 x.2) := by
  intro octets rest b hread
  obtain ⟨⟨a, middle⟩, hr, hs'⟩ := bind_eq_ok_iff.1 hread
  obtain ⟨front, rfl, hfront⟩ := h hr
  obtain ⟨back, rfl, hback⟩ := hs a hs'
  exact ⟨front ++ back, (List.append_assoc _ _ _).symm, hfront.bind hback⟩

end IsLocal

/-! ### Numbers and keys -/

theorem Varint.takes_of_readGroups {left n : Nat} {octets rest : List UInt8}
    (h : readGroups left octets = some (n, rest)) :
    ∃ taken, octets = taken ++ rest ∧ ∀ more, readGroups left (taken ++ more) = some (n, more) := by
  induction left generalizing octets n with
  | zero => simp [readGroups] at h
  | succ left ih =>
      cases octets with
      | nil => simp [readGroups] at h
      | cons b tail =>
          simp only [readGroups] at h
          split at h
          · rename_i hb
            cases h
            exact ⟨[b], rfl, fun more => by simp [readGroups, hb]⟩
          · rename_i hb
            obtain ⟨⟨k, after⟩, hk, he⟩ := Option.map_eq_some_iff.1 h
            cases he
            obtain ⟨taken, rfl, htaken⟩ := ih hk
            exact ⟨b :: taken, rfl, fun more => by simp [readGroups, hb, htaken more]⟩

/-- The octets are a number of variable length, in any of the forms that are read. -/
def IsVarint (octets : List UInt8) (n : Nat) : Prop := readVarint octets = .ok (n, [])

instance (octets : List UInt8) (n : Nat) : Decidable (IsVarint octets n) :=
  inferInstanceAs (Decidable (_ = _))

theorem isLocal_readVarint : IsLocal readVarint := by
  intro octets rest n h
  obtain ⟨hgroups, hsize⟩ := Option.filter_eq_some_iff.1 (readVarint_eq_ok_iff.1 h)
  obtain ⟨taken, rfl, htaken⟩ := Varint.takes_of_readGroups hgroups
  exact ⟨taken, rfl, fun more =>
    readVarint_eq_ok_iff.2 (Option.filter_eq_some_iff.2 ⟨htaken more, hsize⟩)⟩

theorem IsVarint.takes {octets : List UInt8} {n : Nat} (h : IsVarint octets n) :
    Takes readVarint octets n :=
  isLocal_readVarint.takes h

/-- The octets are a number that says a field and a wire type. -/
def IsKey (octets : List UInt8) (key : Key) : Prop :=
  ∃ n, IsVarint octets n ∧ Key.ofNat n = .ok key

theorem Key.isLocal_read : IsLocal read := by
  refine isLocal_readVarint.bind (s := fun n rest => do return (← ofNat n, rest)) fun n => ?_
  cases ofNat n with
  | error fault => exact IsLocal.error fault
  | ok key => exact IsLocal.pure key

theorem IsKey.takes {octets : List UInt8} {key : Key} (h : IsKey octets key) :
    Takes Key.read octets key := by
  obtain ⟨n, hn, hkey⟩ := h
  refine Key.isLocal_read.takes ?_
  rw [Key.read, hn]
  simp [bind, Except.bind, hkey, pure, Except.pure]

theorem isKey_of_takes {octets : List UInt8} {key : Key} (h : Takes Key.read octets key) :
    IsKey octets key := by
  obtain ⟨⟨n, rest⟩, hn, hread⟩ := bind_eq_ok_iff.1 h.whole
  obtain ⟨k, hk, hread⟩ := bind_eq_ok_iff.1 hread
  cases hread
  exact ⟨n, hn, hk⟩

/-! ### Values -/

/-- The octets are a value of this wire type. Groups, which hold fields of their own, are left
out. -/
inductive IsValue : WireType → List UInt8 → Prop
  | varint {octets : List UInt8} {n : Nat} : IsVarint octets n → IsValue .varint octets
  | sixtyFourBit {octets : List UInt8} : octets.length = 8 → IsValue .sixtyFourBit octets
  | lengthDelimited {length content : List UInt8} :
      IsVarint length content.length → IsValue .lengthDelimited (length ++ content)
  | thirtyTwoBit {octets : List UInt8} : octets.length = 4 → IsValue .thirtyTwoBit octets

theorem takes_skipOctets {octets : List UInt8} {count : Nat} (h : octets.length = count) :
    Takes (skipOctets count) octets () := by
  intro more
  simp [skipOctets, ← h]

theorem isLocal_skipOctets (count : Nat) : IsLocal (skipOctets count) := by
  intro octets rest u h
  unfold skipOctets at h
  split at h
  · cases h
  · rename_i hcount
    cases h
    exact ⟨octets.take count, (List.take_append_drop _ _).symm,
      takes_skipOctets (List.length_take_of_le (Nat.not_lt.1 hcount))⟩

/-- A value of a wire type is passed over as one. -/
theorem IsValue.takes_skipField {wireType : WireType} {octets : List UInt8}
    (h : IsValue wireType octets) (depth number : Nat) :
    Takes (skipField (depth + 1) ⟨number, wireType⟩) octets () := by
  cases h with
  | varint hn =>
      intro more
      simp [skipField, hn.takes more, bind, Except.bind, pure, Except.pure]
  | sixtyFourBit hlen => exact takes_skipOctets hlen
  | lengthDelimited hn =>
      exact hn.takes.bind (s := fun count => skipOctets count) (takes_skipOctets rfl)
  | thirtyTwoBit hlen => exact takes_skipOctets hlen

/-- A group is passed over in no more turns than it has octets. -/
theorem takes_of_skipGroup {skip : Key → Reader Unit} (hskip : ∀ key, IsLocal (skip key))
    {field turns : Nat} {octets rest : List UInt8}
    (h : skipGroup skip field turns octets = .ok ((), rest)) :
    ∃ taken, octets = taken ++ rest ∧ ∀ more turns, taken.length ≤ turns →
      skipGroup skip field turns (taken ++ more) = .ok ((), more) := by
  induction turns generalizing octets with
  | zero => cases h
  | succ turns ih =>
      obtain ⟨⟨key, inner⟩, hkey, hgo⟩ := bind_eq_ok_iff.1 h
      have hpos := Key.length_of_read hkey
      obtain ⟨front, rfl, hfront⟩ := Key.isLocal_read hkey
      have hfront_pos : 0 < front.length := by
        rw [List.length_append] at hpos
        omega
      dsimp only at hgo
      by_cases hend : key.wireType = .endGroup
      · rw [if_pos hend] at hgo
        split at hgo
        · rename_i hfield
          cases hgo
          refine ⟨front, rfl, fun more turns hturns => ?_⟩
          obtain ⟨turns, rfl⟩ := Nat.exists_eq_add_one_of_ne_zero (show turns ≠ 0 by omega)
          simp [skipGroup, hfront more, bind, Except.bind, hend, hfield]
        · cases hgo
      · rw [if_neg hend] at hgo
        obtain ⟨⟨⟨⟩, after⟩, hfield, hrest⟩ := bind_eq_ok_iff.1 hgo
        obtain ⟨value, rfl, hvalue⟩ := hskip key hfield
        obtain ⟨back, rfl, hback⟩ := ih hrest
        refine ⟨front ++ (value ++ back), by simp, fun more turns hturns => ?_⟩
        obtain ⟨turns, rfl⟩ := Nat.exists_eq_add_one_of_ne_zero (show turns ≠ 0 by
          simp only [List.length_append] at hturns
          omega)
        have hrest := hback more turns (by
          simp only [List.length_append] at hturns
          omega)
        have hstart := hfront (value ++ (back ++ more))
        simp [skipGroup, List.append_assoc, hstart, hvalue (back ++ more), bind, Except.bind, hend,
          hrest]

theorem isLocal_skipField (depth : Nat) (key : Key) : IsLocal (skipField depth key) := by
  induction depth generalizing key with
  | zero => exact IsLocal.error Fault.tooDeep
  | succ depth ih =>
      obtain ⟨field, wireType⟩ := key
      cases wireType with
      | varint => exact isLocal_readVarint.bind fun _ => IsLocal.pure ()
      | sixtyFourBit => exact isLocal_skipOctets 8
      | lengthDelimited => exact isLocal_readVarint.bind fun count => isLocal_skipOctets count
      | startGroup =>
          intro octets rest u h
          obtain ⟨taken, rfl, htaken⟩ := takes_of_skipGroup ih h
          exact ⟨taken, rfl, fun more => htaken more _ (by simp)⟩
      | endGroup => exact IsLocal.error Fault.unexpectedEndGroup
      | thirtyTwoBit => exact isLocal_skipOctets 4

/-! ### Fields -/

/-- Passes over one field with its key, and gives its number. -/
def passField (depth : Nat) : Reader Nat := fun octets => do
  let (key, rest) ← Key.read octets
  let ((), rest) ← skipField depth key rest
  return (key.field, rest)

/-- The octets are one field of this number, with its key; `depth` is how many groups may be open at
once. -/
def IsField (depth number : Nat) (octets : List UInt8) : Prop :=
  passField depth octets = .ok (number, [])

instance (depth number : Nat) (octets : List UInt8) : Decidable (IsField depth number octets) :=
  inferInstanceAs (Decidable (_ = _))

theorem isLocal_passField (depth : Nat) : IsLocal (passField depth) := by
  refine Key.isLocal_read.bind
    (s := fun key rest => do
      let ((), rest) ← skipField depth key rest
      return (key.field, rest)) fun key => ?_
  exact (isLocal_skipField depth key).bind fun _ => IsLocal.pure key.field

theorem isField_of_key {depth : Nat} {key : Key} {front value : List UInt8} (hkey : IsKey front key)
    (hvalue : Takes (skipField depth key) value ()) : IsField depth key.field (front ++ value) := by
  have hfront := hkey.takes value
  simp [IsField, passField, hfront, hvalue.whole, bind, Except.bind, pure, Except.pure]

theorem IsField.ne_nil {depth number : Nat} {octets : List UInt8}
    (h : IsField depth number octets) : octets ≠ [] := by
  rintro rfl
  obtain ⟨⟨key, rest⟩, hkey, -⟩ := bind_eq_ok_iff.1 h
  exact absurd (Key.length_of_read hkey) (by simp)

theorem IsField.number_unique {depth number number' : Nat} {octets : List UInt8}
    (h : IsField depth number octets) (h' : IsField depth number' octets) : number = number' := by
  rw [IsField, h] at h'
  cases h'
  rfl

/-- A field of this number that holds no group. -/
def IsPlainField (number : Nat) (octets : List UInt8) : Prop :=
  ∃ wireType front value,
    octets = front ++ value ∧ IsKey front ⟨number, wireType⟩ ∧ IsValue wireType value

theorem IsPlainField.isField {number : Nat} {octets : List UInt8} (h : IsPlainField number octets)
    (depth : Nat) : IsField (depth + 1) number octets := by
  obtain ⟨wireType, front, value, rfl, hkey, hvalue⟩ := h
  exact isField_of_key hkey (hvalue.takes_skipField depth number)

/-- The octets cut into fields. -/
structure IsCut (depth : Nat) (octets : List UInt8) (fields : List (List UInt8)) : Prop where
  octets_eq : octets = fields.flatten
  fields : ∀ field ∈ fields, ∃ number, IsField depth number field

/-- Octets are cut into fields in one way only. -/
theorem IsCut.unique {depth : Nat} {octets : List UInt8} {fields fields' : List (List UInt8)}
    (h : IsCut depth octets fields) (h' : IsCut depth octets fields') : fields = fields' := by
  obtain ⟨rfl, hfields⟩ := h
  obtain ⟨heq, hfields'⟩ := h'
  induction fields generalizing fields' with
  | nil =>
      cases fields' with
      | nil => rfl
      | cons field tail =>
          obtain ⟨number, hfield⟩ := hfields' field List.mem_cons_self
          exact absurd (List.append_eq_nil_iff.1 heq.symm).1 hfield.ne_nil
  | cons field tail ih =>
      obtain ⟨number, hfield⟩ := hfields field List.mem_cons_self
      cases fields' with
      | nil => exact absurd (List.append_eq_nil_iff.1 heq).1 hfield.ne_nil
      | cons field' tail' =>
          obtain ⟨number', hfield'⟩ := hfields' field' List.mem_cons_self
          obtain ⟨rfl, hrest⟩ := (isLocal_passField depth).eq_of_append_eq hfield hfield' heq
          rw [ih (fun f hf => hfields f (List.mem_cons_of_mem _ hf)) hrest
            fun f hf => hfields' f (List.mem_cons_of_mem _ hf)]

end BrokerMonitor.Wire
