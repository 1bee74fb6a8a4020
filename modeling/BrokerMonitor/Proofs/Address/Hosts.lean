import BrokerMonitor.Proofs.Address.Coding
import BrokerMonitor.Proofs.Address.Names
import BrokerMonitor.Proofs.Address.Octets
import BrokerMonitor.Proofs.Address.Pieces
import BrokerMonitor.Url.Authority
/-!
# Hosts in normal form

A host that has been read is a name in ASCII form that ends in no number, or an address. Its text is
read as the same host, unless it is a name with a label that is too long to be read.
-/

namespace BrokerMonitor.Url.Host

open Idna (isPlain labels)

/-- A host as it is read. -/
def IsNormal : Host → Prop
  | .domain name =>
    (∃ given, Idna.toAscii? given = some name.toList) ∧ name.toList ≠ [] ∧
      Ipv4.endsInNumber name.toList = false
  | _ => True

/-- No label of the host is too long to be read. -/
def IsReadable (host : Host) : Prop := ∀ label ∈ labels host.text.toList, Idna.IsReadable label

instance (host : Host) : Decidable host.IsReadable :=
  inferInstanceAs (Decidable (∀ label ∈ labels host.text.toList, Idna.IsReadable label))

variable {host : Host} {text : List Char} {c : Char}

/-! ## What is read -/

theorem isNormal_of_ofAscii {given : List Char} (hname : Idna.toAscii? given = some text)
    (h : ofAscii text = .ok host) : host.IsNormal := by
  rw [ofAscii] at h
  split_ifs at h with hempty hnumber
  · split at h <;> cases h
    trivial
  · cases h
    exact ⟨⟨given, by simpa using hname⟩, by simpa using hempty, by simpa using hnumber⟩

theorem bracketed?_of_not_mem (h : '[' ∉ text) : bracketed? text = none := by
  cases text with
  | nil => rfl
  | cons c rest =>
      rw [bracketed?]
      rintro rest' heq
      exact h (heq ▸ List.mem_cons_self)

theorem isNormal_of_bracketed? (h : bracketed? text = some (.ok host)) : host.IsNormal := by
  cases host with
  | ipv4 a => trivial
  | ipv6 a => trivial
  | domain name =>
      revert h
      fun_cases bracketed? text <;> simp

/-- Whatever is read as a host is in normal form. -/
theorem isNormal_of_parse (h : parse text = .ok host) : host.IsNormal := by
  rw [parse] at h
  split at h
  case h_1 result hresult =>
    subst h
    exact isNormal_of_bracketed? hresult
  case h_2 =>
    split at h
    · cases h
    · split at h
      · cases h
      · rename_i hname
        exact isNormal_of_ofAscii hname h

/-! ## Characters -/

/-- A character that ends no host, and may stand in a URL. -/
def isHostChar (c : Char) : Bool := Text.isPrintable c && !endsAuthority true c && c != '@'

/-- A character of a name or of an address of four octets. -/
def isNameChar (c : Char) : Bool := isPlain c || c == '.'

theorem isAscii_of_isNameChar (h : isNameChar c = true) : c.toNat < 128 := by
  rw [isNameChar, Bool.or_eq_true, beq_iff_eq] at h
  rcases h with h | rfl
  · exact of_decide_eq_true (Idna.isAscii_of_isPlain h)
  · decide

theorem isHostChar_of_isNameChar (h : isNameChar c = true) : isHostChar c = true :=
  Text.forall_ascii (P := fun c => isNameChar c = true → isHostChar c = true) (by decide)
    (isAscii_of_isNameChar h) h

theorem isAscii_of_isHex (h : Ipv6.isHex c = true) : c.toNat < 128 := by
  simp only [Ipv6.isHex, Char.isDigit, Bool.or_eq_true, Bool.and_eq_true, decide_eq_true_eq,
    ge_iff_le, UInt32.le_iff_toNat_le, Char.le_def] at h
  rcases h with ⟨-, h⟩ | ⟨-, h⟩ <;> exact Nat.lt_of_le_of_lt h (by decide)

theorem isNameChar_of_isDigit (h : c.isDigit = true) : isNameChar c = true :=
  Text.forall_ascii (P := fun c => c.isDigit = true → isNameChar c = true) (by decide)
    (isAscii_of_isHex (by simp [Ipv6.isHex, h])) h

theorem isHostChar_of_isHex (h : Ipv6.isHex c = true) : isHostChar c = true :=
  Text.forall_ascii (P := fun c => Ipv6.isHex c = true → isHostChar c = true) (by decide)
    (isAscii_of_isHex h) h

theorem IsNormal.isNameChar {name : String} (h : (domain name).IsNormal) (hc : c ∈ name.toList) :
    isNameChar c = true := by
  obtain ⟨⟨given, hgiven⟩, -, -⟩ := h
  have := Idna.isPlain_of_toAscii? hgiven hc
  simpa [Host.isNameChar] using this

theorem isNameChar_of_mem_ipv4 {a : Ipv4} (hc : c ∈ a.text.toList) : isNameChar c = true := by
  rcases a.isDigit_of_mem_text hc with hc | rfl
  · exact isNameChar_of_isDigit hc
  · decide

theorem toList_text_ipv6 (a : Ipv6) : (ipv6 a).text.toList = '[' :: (a.text ++ [']']) := by
  simp [text]

theorem IsNormal.isHostChar (h : host.IsNormal) (hc : c ∈ host.text.toList) :
    isHostChar c = true := by
  cases host with
  | domain name => exact isHostChar_of_isNameChar (h.isNameChar hc)
  | ipv4 a => exact isHostChar_of_isNameChar (isNameChar_of_mem_ipv4 hc)
  | ipv6 a =>
      rw [toList_text_ipv6] at hc
      simp only [List.mem_cons, List.mem_append, List.not_mem_nil, or_false] at hc
      rcases hc with rfl | hc | rfl
      · decide
      · rcases a.isHex_of_mem_text hc with hc | rfl
        · exact isHostChar_of_isHex hc
        · decide
      · decide

/-! ## Reading a name -/

/-- A host without a bracket and without an escape is a name as it stands. -/
theorem parse_of_not_mem (hbracket : '[' ∉ text) (hpercent : '%' ∉ text) :
    parse text = match Idna.toAscii? text with
      | none => .error .invalidName
      | some ascii => ofAscii ascii := by
  rw [parse, bracketed?_of_not_mem hbracket]
  cases hascii : Idna.toAscii? text <;> simp [decode?_decode_encode hpercent, hascii]

theorem parse_of_isNameChar (h : ∀ c ∈ text, isNameChar c = true) :
    parse text = match Idna.toAscii? text with
      | none => .error .invalidName
      | some ascii => ofAscii ascii :=
  parse_of_not_mem (fun hmem => absurd (h '[' hmem) (by decide))
    fun hmem => absurd (h '%' hmem) (by decide)

theorem parse_text_domain {name : String} (h : (domain name).IsNormal) :
    parse name.toList =
      if (domain name).IsReadable then .ok (.domain name) else .error .invalidName := by
  rw [parse_of_isNameChar fun c hc => h.isNameChar hc]
  obtain ⟨⟨given, hgiven⟩, hne, hnumber⟩ := h
  rw [Idna.toAscii?_toAscii? hgiven]
  by_cases hreadable : (domain name).IsReadable
  · rw [if_pos hreadable, if_pos (show ∀ label ∈ labels name.toList, Idna.IsReadable label from
      hreadable)]
    simp [ofAscii, hne, hnumber]
  · rw [if_neg hreadable, if_neg (show ¬∀ label ∈ labels name.toList, Idna.IsReadable label from
      hreadable)]

/-- An address of four octets has no label that is written behind a marker. -/
theorem not_marked_of_ipv4 {a : Ipv4} {label : List Char} (h : label ∈ labels a.text.toList) :
    ¬Idna.marker <+: label := by
  rintro ⟨rest, rfl⟩
  have hmem : 'x' ∈ a.text.toList := (Unicode.Table.of_mem_cut h).2 (by simp [Idna.marker])
  exact absurd (a.isDigit_of_mem_text hmem) (by decide)

theorem isReadable_ipv4 (a : Ipv4) : (ipv4 a).IsReadable :=
  fun _ hlabel hmarker => absurd hmarker (not_marked_of_ipv4 hlabel)

theorem isReadable_ipv6 (a : Ipv6) : (ipv6 a).IsReadable := by
  rintro label hlabel ⟨rest, rfl⟩
  have hmem : 'x' ∈ (ipv6 a).text.toList :=
    (Unicode.Table.of_mem_cut hlabel).2 (by simp [Idna.marker])
  rw [toList_text_ipv6] at hmem
  simp only [List.mem_cons, List.mem_append, List.not_mem_nil, or_false] at hmem
  rcases hmem with hmem | hmem | hmem
  · cases hmem
  · exact absurd (a.isHex_of_mem_text hmem) (by decide)
  · cases hmem

theorem text_ipv4_ne_nil (a : Ipv4) : a.text.toList ≠ [] := by
  intro hnil
  have hnumber := a.endsInNumber_text
  rw [hnil] at hnumber
  exact absurd hnumber (by decide)

theorem parse_text_ipv4 (a : Ipv4) : parse a.text.toList = .ok (.ipv4 a) := by
  have hascii : Idna.toAscii? a.text.toList = some a.text.toList := by
    refine Idna.toAscii?_of_isPlain (fun c hc => ?_) fun label hlabel => not_marked_of_ipv4 hlabel
    simpa [isNameChar] using isNameChar_of_mem_ipv4 hc
  have hne := text_ipv4_ne_nil a
  rw [parse_of_isNameChar fun c hc => isNameChar_of_mem_ipv4 hc, hascii]
  simp only [ofAscii, a.endsInNumber_text, a.ofName?_text]
  simpa using hne

theorem parse_text_ipv6 (a : Ipv6) : parse (ipv6 a).text.toList = .ok (.ipv6 a) := by
  rw [toList_text_ipv6, parse]
  simp [bracketed?, a.ofText?_text]

/-- The text of a host is read as the host, if its labels can be read. -/
theorem parse_text (h : host.IsNormal) :
    parse host.text.toList = if host.IsReadable then .ok host else .error .invalidName := by
  cases host with
  | domain name => exact parse_text_domain h
  | ipv4 a => rw [if_pos (isReadable_ipv4 a)]; exact parse_text_ipv4 a
  | ipv6 a => rw [if_pos (isReadable_ipv6 a)]; exact parse_text_ipv6 a

theorem text_ne_nil (h : host.IsNormal) : host.text.toList ≠ [] := by
  cases host with
  | domain name => exact h.2.1
  | ipv4 a => exact text_ipv4_ne_nil a
  | ipv6 a => simp [toList_text_ipv6]

/-! ## The host in front of a port -/

variable {front rest : List Char}

/-- Outside brackets a text without colons and brackets belongs to the host. -/
theorem cutHost_append (h : ∀ c ∈ front, c ≠ ':' ∧ c ≠ '[' ∧ c ≠ ']') :
    cutHost false (front ++ rest) =
      (front ++ (cutHost false rest).1, (cutHost false rest).2) := by
  induction front with
  | nil => rfl
  | cons c front ih =>
      obtain ⟨⟨hcolon, hopen, hclose⟩, hfront⟩ := List.forall_mem_cons.1 h
      simp [cutHost, hcolon, hopen, hclose, ih hfront]

/-- Inside brackets colons belong to the host too. -/
theorem cutHost_inside (h : ∀ c ∈ front, c ≠ '[' ∧ c ≠ ']') :
    cutHost true (front ++ ']' :: rest) =
      (front ++ ']' :: (cutHost false rest).1, (cutHost false rest).2) := by
  induction front with
  | nil => simp [cutHost]
  | cons c front ih =>
      obtain ⟨⟨hopen, hclose⟩, hfront⟩ := List.forall_mem_cons.1 h
      simp [cutHost, hopen, hclose, ih hfront]

/-- The host ends where the port begins. -/
theorem cutHost_text (h : host.IsNormal) (hrest : rest = [] ∨ rest.head? = some ':') :
    cutHost false (host.text.toList ++ rest) = (host.text.toList, rest) := by
  have hend : cutHost false rest = ([], rest) := by
    cases rest with
    | nil => rfl
    | cons c rest =>
        obtain rfl : c = ':' := by simpa using hrest
        simp [cutHost]
  have hname : (∀ c ∈ host.text.toList, isNameChar c = true) →
      cutHost false (host.text.toList ++ rest) = (host.text.toList, rest) := by
    intro hall
    rw [cutHost_append, hend, List.append_nil]
    intro c hc
    have hchar := hall c hc
    refine ⟨?_, ?_, ?_⟩ <;> rintro rfl <;> exact absurd hchar (by decide)
  cases host with
  | domain name => exact hname fun c hc => h.isNameChar hc
  | ipv4 a => exact hname fun c hc => isNameChar_of_mem_ipv4 hc
  | ipv6 a =>
      have hinside : ∀ c ∈ a.text, c ≠ '[' ∧ c ≠ ']' := by
        intro c hc
        constructor <;> rintro rfl <;> exact absurd (a.isHex_of_mem_text hc) (by decide)
      rw [toList_text_ipv6, List.cons_append, List.append_assoc]
      simp [cutHost, cutHost_inside hinside, hend]

end BrokerMonitor.Url.Host
