import BrokerMonitor.Idna.Domain
import BrokerMonitor.Proofs.Address.Punycode
/-!
# Names in ASCII form

The ASCII form of a name is in ASCII form already: mapping and composing leave it alone, it is cut
into the labels it was put together from, and each of them is read as what was written. A label that
is written behind `xn--` can be longer than a label that is read, so this holds of the names whose
labels are not too long, and no other name in ASCII form is accepted again.
-/

namespace BrokerMonitor.Idna

open Unicode (standsAlone isIdeograph)

/-! ## Composed form -/

section Composed

variable {a c : Char} {text : List Char}

theorem bounds_of_standsAlone (h : standsAlone c = true) :
    c.toNat < 0x80 ∨ (0x3400 ≤ c.toNat ∧ c.toNat < 0xA000) ∨
      (0x20000 ≤ c.toNat ∧ c.toNat < 0x2A6E0) := by
  simp only [standsAlone, isIdeograph, Bool.or_eq_true, Bool.and_eq_true, decide_eq_true_eq] at h
  omega

theorem decompose_of_standsAlone (h : standsAlone c = true) (depth : Nat) :
    decompose depth c = [c] := by
  cases depth with
  | zero => rfl
  | succ depth =>
      have hbounds := bounds_of_standsAlone h
      have hhangul : Hangul.decomposed? c = none := by
        refine if_neg ?_
        simp only [Hangul.firstSyllable, Hangul.leads, Hangul.vowels, Hangul.tails]
        omega
      have htable : Unicode.decomposed? c = none := if_pos h
      rw [decompose, hhangul, htable]

theorem compose?_of_standsAlone (h : standsAlone c = true) : compose? a c = none := by
  have hbounds := bounds_of_standsAlone h
  have hhangul : Hangul.composed? a c = none := by
    rw [Hangul.composed?]
    split_ifs with hopen hclosed
    · simp only [Hangul.firstVowel, Hangul.vowels] at hopen
      omega
    · simp only [Hangul.firstTail, Hangul.tails] at hclosed
      omega
    · rfl
  rw [compose?, hhangul]
  exact if_pos h

theorem combiningClass_of_standsAlone (h : standsAlone c = true) : Unicode.combiningClass c = 0 :=
  if_pos h

theorem orderMarks_of_standsAlone (h : ∀ c ∈ text, standsAlone c = true) :
    orderMarks text = text := by
  have hfold : ∀ rev, text.foldl (fun rev c =>
      if Unicode.combiningClass c = 0 then c :: rev else insertMark c rev) rev =
        text.reverse ++ rev := by
    induction text with
    | nil => exact fun rev => rfl
    | cons c text ih =>
        intro rev
        obtain ⟨hc, htext⟩ := List.forall_mem_cons.1 h
        rw [List.foldl_cons, if_pos (combiningClass_of_standsAlone hc), ih htext]
        simp
  rw [orderMarks, hfold, List.append_nil, List.reverse_reverse]

theorem composeAfter_of_standsAlone (h : ∀ c ∈ text, standsAlone c = true) :
    composeAfter a [] 0 text = a :: text := by
  induction text generalizing a with
  | nil => rfl
  | cons c text ih =>
      obtain ⟨hc, htext⟩ := List.forall_mem_cons.1 h
      simp [composeAfter, compose?_of_standsAlone hc, combiningClass_of_standsAlone hc, ih htext]

/-- Characters that stand on their own are a text in composed form. -/
theorem composedForm_of_standsAlone (h : ∀ c ∈ text, standsAlone c = true) :
    composedForm text = text := by
  have hdecompose : text.flatMap (decompose maxDepth) = text := by
    induction text with
    | nil => rfl
    | cons c text ih =>
        obtain ⟨hc, htext⟩ := List.forall_mem_cons.1 h
        rw [List.flatMap_cons, decompose_of_standsAlone hc, ih htext]
        rfl
  rw [composedForm, hdecompose, orderMarks_of_standsAlone h]
  cases text with
  | nil => rfl
  | cons c text => exact composeAfter_of_standsAlone (List.forall_mem_cons.1 h).2

end Composed

/-! ## Labels -/

/-- What a label stands for that has been read. -/
def IsRead (label : List Char) : Prop :=
  if label.all isAscii then label.all isValidChar ∧ ¬marker <+: label else isValidLabel label

/-- A label that is not too long to be read. -/
def IsReadable (label : List Char) : Prop :=
  marker <+: label → label.length ≤ marker.length + Punycode.maxRead

instance (label : List Char) : Decidable (IsReadable label) :=
  inferInstanceAs (Decidable (_ → _))

section Label

variable {label written : List Char} {c : Char}

theorem isRead_of_readLabel? (h : readLabel? label = some written) : IsRead written := by
  rw [readLabel?] at h
  rw [IsRead]
  split at h
  case isTrue hmarker =>
    obtain ⟨read, -, h⟩ := Option.bind_eq_some_iff.1 h
    split at h <;> cases h
    rename_i hread
    simp_all
  case isFalse hmarker =>
    split at h
    · split at h <;> cases h
      simp_all
    · split at h <;> cases h
      simp_all

theorem isValidLabel.all (h : isValidLabel label = true) : label.all isValidChar = true := by
  simp only [isValidLabel, Bool.and_eq_true] at h
  exact h.1.1.1

theorem IsRead.all (h : IsRead label) : label.all isValidChar = true := by
  rw [IsRead] at h
  split at h
  · exact h.1
  · exact isValidLabel.all h

/-- A character of a name in ASCII form, which is no point. -/
def isPlain (c : Char) : Bool := isAscii c && isValidChar c

theorem isPlain_of_mem_marker (h : c ∈ marker) : isPlain c = true := by
  have hall : marker.all isPlain = true := by decide
  exact List.all_eq_true.1 hall c h

theorem isPlain_digit {d : Nat} (h : d < 36) : isPlain (Punycode.digit d) = true := by
  have hall : ∀ d ∈ List.range 36, isPlain (Punycode.digit d) = true := by decide
  exact hall d (List.mem_range.2 h)

/-- What is written for a label are characters of a name in ASCII form. -/
theorem isPlain_of_writeLabel? (hread : IsRead label) (h : writeLabel? label = some written)
    (hc : c ∈ written) : isPlain c = true := by
  rw [writeLabel?] at h
  split at h
  case isTrue hascii =>
    cases h
    rw [isPlain, List.all_eq_true.1 hascii c hc, List.all_eq_true.1 hread.all c hc]
    rfl
  case isFalse hascii =>
    obtain ⟨text, htext, rfl⟩ := Option.map_eq_some_iff.1 h
    rcases List.mem_append.1 hc with hc | hc
    · exact isPlain_of_mem_marker hc
    · rcases Punycode.mem_of_encode? htext hc with ⟨hc, hlt⟩ | rfl | ⟨d, hd, rfl⟩
      · simp [isPlain, isAscii, hlt, List.all_eq_true.1 hread.all c hc]
      · decide
      · exact isPlain_digit hd

/-- A label is read as what it was written for, unless it is too long. -/
theorem readLabel?_of_writeLabel? (hread : IsRead label) (h : writeLabel? label = some written) :
    readLabel? written = if IsReadable written then some label else none := by
  rw [writeLabel?] at h
  split at h
  case isTrue hascii =>
    cases h
    rw [IsRead, if_pos hascii] at hread
    obtain ⟨hvalid, hmarker⟩ := hread
    rw [readLabel?, if_neg (by simpa using hmarker), if_pos hascii, if_pos hvalid,
      if_pos (show IsReadable label from fun hprefix => absurd hprefix hmarker)]
  case isFalse hascii =>
    obtain ⟨text, htext, rfl⟩ := Option.map_eq_some_iff.1 h
    rw [IsRead, if_neg hascii] at hread
    have hprefix : marker <+: marker ++ text := List.prefix_append _ _
    have hreadable : IsReadable (marker ++ text) ↔ text.length ≤ Punycode.maxRead := by
      rw [IsReadable, List.length_append]
      exact ⟨fun h => Nat.le_of_add_le_add_left (h hprefix), fun h _ => Nat.add_le_add_left h _⟩
    have hkept : (!label.all isAscii && isValidLabel label) = true := by simpa [hread] using hascii
    rw [readLabel?, if_pos (by simp), List.drop_left, Punycode.decode?_of_encode? htext]
    by_cases hlength : text.length ≤ Punycode.maxRead
    · rw [if_pos hlength, if_pos (hreadable.2 hlength)]
      exact if_pos hkept
    · rw [if_neg hlength, if_neg (mt hreadable.1 hlength)]
      rfl

end Label

/-! ## Names -/

/-- What becomes of the labels of a name that are in ASCII form. -/
def rewrite (parts : List (List Char)) : Option (List Char) := do
  let read ← parts.mapM readLabel?
  if read.any (·.any isRightToLeft) && !read.all keepsDirection then none
  else do
    let written ← read.mapM writeLabel?
    some (joinLabels written)

theorem toAscii?_eq (name : List Char) :
    toAscii? name = (name.mapM mapChar?).bind fun mapped =>
      rewrite (labels (composedForm mapped.flatten)) := rfl

section Name

variable {parts : List (List Char)} {name ascii : List Char} {c : Char}

theorem isAscii_of_isPlain (h : isPlain c = true) : isAscii c = true :=
  (Bool.and_eq_true_iff.1 h).1

theorem mapChar?_of_isPlain (h : isPlain c = true) : mapChar? c = some [c] := by
  simp only [isPlain, Bool.and_eq_true] at h
  obtain ⟨hascii, hvalid⟩ := h
  rw [isValidChar, if_pos hascii] at hvalid
  simp only [Bool.and_eq_true, beq_iff_eq] at hvalid
  rw [mapChar?, if_pos hascii, hvalid.1.2]

/-- A name of characters that are mapped to themselves and that compose with nothing is rewritten
as it stands. -/
theorem toAscii?_of_standsAlone (hmapped : ∀ c ∈ name, mapChar? c = some [c])
    (halone : ∀ c ∈ name, standsAlone c = true) : toAscii? name = rewrite (labels name) := by
  have hmap : name.mapM mapChar? = some (name.map ([·])) := by
    rw [Text.mapM_eq_some_iff, List.map_map]
    exact List.map_congr_left hmapped
  rw [toAscii?_eq, hmap, Option.bind_some, ← List.flatMap_def, List.flatMap_singleton',
    composedForm_of_standsAlone halone]

/-- Labels in ASCII form are put together into a name that is cut into them again. -/
theorem toAscii?_joinLabels (hne : parts ≠ [])
    (h : ∀ part ∈ parts, ∀ c ∈ part, isPlain c = true) :
    toAscii? (joinLabels parts) = rewrite parts := by
  have hchar : ∀ c ∈ joinLabels parts, isPlain c = true ∨ c = '.' := by
    intro c hc
    rcases Text.mem_intercalate hc with rfl | ⟨part, hpart, hc⟩
    · exact .inr rfl
    · exact .inl (h part hpart c hc)
  have hmapped : ∀ c ∈ joinLabels parts, mapChar? c = some [c] := by
    intro c hc
    rcases hchar c hc with hplain | rfl
    · exact mapChar?_of_isPlain hplain
    · decide
  have halone : ∀ c ∈ joinLabels parts, standsAlone c = true := by
    intro c hc
    rw [Unicode.standsAlone, Bool.or_eq_true]
    rcases hchar c hc with hplain | rfl
    · exact .inl (isAscii_of_isPlain hplain)
    · exact .inl (by decide)
  have hlabels : labels (joinLabels parts) = parts := by
    refine Unicode.Table.cut_intercalate (fun part hpart hpoint => ?_) hne
    exact absurd (h part hpart '.' hpoint) (by decide)
  rw [toAscii?_of_standsAlone hmapped halone, hlabels]

/-- The labels behind a name in ASCII form. -/
theorem exists_of_toAscii? (h : toAscii? name = some ascii) :
    ∃ read written : List (List Char), read ≠ [] ∧ (∀ label ∈ read, IsRead label) ∧
      (read.any (·.any isRightToLeft) && !read.all keepsDirection) = false ∧
      read.mapM writeLabel? = some written ∧ ascii = joinLabels written := by
  obtain ⟨mapped, -, h⟩ := Option.bind_eq_some_iff.1 h
  obtain ⟨read, hread, h⟩ := Option.bind_eq_some_iff.1 h
  split at h
  · cases h
  · rename_i hdirection
    obtain ⟨written, hwritten, h⟩ := Option.bind_eq_some_iff.1 h
    cases h
    refine ⟨read, written, ?_, fun label hlabel => ?_, by simpa using hdirection, hwritten, rfl⟩
    · rintro rfl
      exact Unicode.Table.cut_ne_nil _ _ (List.map_eq_nil_iff.1 (Text.mapM_eq_some_iff.1 hread))
    · obtain ⟨part, -, hpart⟩ := Text.exists_of_mapM_eq_some hread hlabel
      exact isRead_of_readLabel? hpart

/-- The name in ASCII form has the labels that were written. -/
theorem labels_joinLabels {read written : List (List Char)} (hne : read ≠ [])
    (hread : ∀ label ∈ read, IsRead label) (h : read.mapM writeLabel? = some written) :
    written ≠ [] ∧ (∀ part ∈ written, ∀ c ∈ part, isPlain c = true) ∧
      labels (joinLabels written) = written := by
  have hplain : ∀ part ∈ written, ∀ c ∈ part, isPlain c = true := by
    intro part hpart c hc
    obtain ⟨label, hlabel, hwrite⟩ := Text.exists_of_mapM_eq_some h hpart
    exact isPlain_of_writeLabel? (hread label hlabel) hwrite hc
  have hwritten : written ≠ [] := by
    rintro rfl
    exact hne (List.map_eq_nil_iff.1 (Text.mapM_eq_some_iff.1 h))
  refine ⟨hwritten, hplain, Unicode.Table.cut_intercalate (fun part hpart hpoint => ?_) hwritten⟩
  exact absurd (hplain part hpart '.' hpoint) (by decide)

theorem isPlain_of_toAscii? (h : toAscii? name = some ascii) (hc : c ∈ ascii) :
    isPlain c = true ∨ c = '.' := by
  obtain ⟨read, written, hne, hread, -, hwritten, rfl⟩ := exists_of_toAscii? h
  obtain ⟨-, hplain, -⟩ := labels_joinLabels hne hread hwritten
  rcases Text.mem_intercalate hc with rfl | ⟨part, hpart, hc⟩
  · exact .inr rfl
  · exact .inl (hplain part hpart c hc)

/-- A name in ASCII form is its own ASCII form, if its labels can be read. -/
theorem toAscii?_toAscii? (h : toAscii? name = some ascii) :
    toAscii? ascii = if ∀ label ∈ labels ascii, IsReadable label then some ascii else none := by
  obtain ⟨read, written, hne, hread, hdirection, hwritten, rfl⟩ := exists_of_toAscii? h
  obtain ⟨hwritten', hplain, hlabels⟩ := labels_joinLabels hne hread hwritten
  rw [toAscii?_joinLabels hwritten' hplain, hlabels, rewrite]
  split
  case isTrue hreadable =>
    have hback : written.mapM readLabel? = some read := by
      refine Text.mapM_of_inverse hwritten fun label hlabel part hpart hwrite => ?_
      rw [readLabel?_of_writeLabel? (hread label hlabel) hwrite, if_pos (hreadable part hpart)]
    simp only [hback, Option.bind_eq_bind, Option.bind_some, hdirection, hwritten]
    rfl
  case isFalse hlong =>
    obtain ⟨part, hpart, hlong⟩ : ∃ part ∈ written, ¬IsReadable part := by simpa using hlong
    obtain ⟨label, hlabel, hwrite⟩ := Text.exists_of_mapM_eq_some hwritten hpart
    have hnone : readLabel? part = none := by
      rw [readLabel?_of_writeLabel? (hread label hlabel) hwrite, if_neg hlong]
    rw [Text.mapM_eq_none hpart hnone]
    rfl

/-- A name of plain labels is its own ASCII form. -/
theorem toAscii?_of_isPlain (h : ∀ c ∈ name, isPlain c = true ∨ c = '.')
    (hmarker : ∀ label ∈ labels name, ¬marker <+: label) : toAscii? name = some name := by
  have hplain : ∀ part ∈ labels name, ∀ c ∈ part, isPlain c = true := by
    intro part hpart c hc
    obtain ⟨hpoint, hsubset⟩ := Unicode.Table.of_mem_cut hpart
    refine (h c (hsubset hc)).resolve_right ?_
    rintro rfl
    exact hpoint hc
  have hascii : ∀ part ∈ labels name, part.all isAscii = true := by
    intro part hpart
    exact List.all_eq_true.2 fun c hc => isAscii_of_isPlain (hplain part hpart c hc)
  have hread : (labels name).mapM readLabel? = some (labels name) := by
    rw [Text.mapM_eq_some_iff]
    refine List.map_congr_left fun part hpart => ?_
    have hvalid : part.all isValidChar = true := by
      refine List.all_eq_true.2 fun c hc => ?_
      exact (Bool.and_eq_true_iff.1 (hplain part hpart c hc)).2
    rw [readLabel?, if_neg (by simpa using hmarker part hpart), if_pos (hascii part hpart),
      if_pos hvalid]
  have hdirection : (labels name).any (·.any isRightToLeft) = false := by
    refine List.any_eq_false.2 fun part hpart hany => ?_
    obtain ⟨c, hc, hright⟩ := List.any_eq_true.1 hany
    simp [isRightToLeft, isAscii_of_isPlain (hplain part hpart c hc)] at hright
  have hwrite : (labels name).mapM writeLabel? = some (labels name) := by
    rw [Text.mapM_eq_some_iff]
    exact List.map_congr_left fun part hpart => if_pos (hascii part hpart)
  have hjoin : joinLabels (labels name) = name := Unicode.Table.intercalate_cut '.' name
  have hne : labels name ≠ [] := Unicode.Table.cut_ne_nil '.' name
  have hrewrite := toAscii?_joinLabels hne hplain
  rw [hjoin] at hrewrite
  rw [hrewrite, rewrite]
  simp only [hread, Option.bind_eq_bind, Option.bind_some, hdirection, hwrite, Bool.false_and,
    hjoin]
  rfl

end Name

end BrokerMonitor.Idna
