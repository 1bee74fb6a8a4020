import BrokerMonitor.Endpoint
import BrokerMonitor.Proofs.Address.Authorities
import BrokerMonitor.Proofs.Address.Paths
/-!
# The normal form of an endpoint

An endpoint that has been read is in normal form, part by part, and its text is read as the same
endpoint again. The one exception are names with a label that is written behind `xn--` with more
characters than are read: their texts are refused.
-/

namespace BrokerMonitor

/-! ## Printable texts -/

section Printable

variable {c : Char} {text : List Char} {p : Char → Bool}

theorem Text.isAscii_of_isPrintable (h : isPrintable c = true) : c.toNat < 128 := by
  simp only [isPrintable, Bool.and_eq_true, decide_eq_true_eq] at h
  omega

theorem Text.not_blank_of_isPrintable (h : isPrintable c = true) :
    isBlank c = false ∧ Url.isEdge c = false ∧ Url.isBreak c = false :=
  forall_ascii (P := fun c => isPrintable c = true →
    isBlank c = false ∧ Url.isEdge c = false ∧ Url.isBreak c = false) (by decide)
    (isAscii_of_isPrintable h) h

theorem Text.trimBy_of_forall_not (h : ∀ c ∈ text, p c = false) : trimBy p text = text := by
  have hdrop : ∀ l : List Char, (∀ c ∈ l, p c = false) → l.dropWhile p = l := by
    intro l hl
    cases l with
    | nil => rfl
    | cons c l => exact List.dropWhile_cons_of_neg (by simp [hl c List.mem_cons_self])
  rw [trimBy, hdrop text h, hdrop text.reverse fun c hc => h c (List.mem_reverse.1 hc),
    List.reverse_reverse]

/-- A printable text has no blanks around it. -/
theorem Text.trim_of_isPrintable (h : ∀ c ∈ text, isPrintable c = true) : trim text = text :=
  trimBy_of_forall_not fun c hc => (not_blank_of_isPrintable (h c hc)).1

end Printable

namespace Url

/-! ## Web addresses -/

/-- A web address as it is read. -/
structure Web.IsNormal (u : Web) : Prop where
  authority : u.authority.IsNormal u.scheme.port
  path : IsPath u.path
  query : ∀ q ∈ u.query, ∀ c ∈ q.toList, inQuerySet c = false
  fragment : ∀ f ∈ u.fragment, ∀ c ∈ f.toList, inFragmentSet c = false

namespace Web

variable {u : Web} {scheme : WebScheme} {text : List Char} {c : Char}

/-- A character of a path, in front of a query or a fragment. -/
def isPathChar (c : Char) : Bool := c != '?' && c != '#'

/-- The web address of an authority and what follows it. -/
def ofParts (scheme : WebScheme) (rest : List Char) (authority : Authority) : Web :=
  ⟨scheme, authority, parsePath (rest.span isPathChar).1,
    (cutTail (rest.span isPathChar).2).1.map fun q => String.ofList (encode inQuerySet q),
    (cutTail (rest.span isPathChar).2).2.map fun f => String.ofList (encode inFragmentSet f)⟩

theorem parse_eq (scheme : WebScheme) (text : List Char) :
    parse scheme text = (Authority.parse scheme.port (text.span (! endsAuthority true ·)).1).map
      (ofParts scheme (text.span (! endsAuthority true ·)).2) := by
  rw [parse]
  generalize text.span (! endsAuthority true ·) = cut
  obtain ⟨front, rest⟩ := cut
  cases hauthority : Authority.parse scheme.port front <;> simp only [hauthority] <;> rfl

/-- Whatever is read as a web address is in normal form. -/
theorem isNormal_of_parse (h : parse scheme text = .ok u) : u.IsNormal := by
  rw [parse_eq] at h
  cases hauthority : Authority.parse scheme.port (text.span (! endsAuthority true ·)).1 with
  | error fault =>
      rw [hauthority] at h
      cases h
  | ok authority =>
      rw [hauthority] at h
      cases h
      constructor
      case authority => exact Authority.isNormal_of_parse hauthority
      case path => exact isPath_parsePath _
      case query =>
        intro q hq c hc
        obtain ⟨given, -, rfl⟩ := Option.map_eq_some_iff.1 hq
        exact isCodeSet_inQuerySet.of_mem_encode (by simpa using hc)
      case fragment =>
        intro f hf c hc
        obtain ⟨given, -, rfl⟩ := Option.map_eq_some_iff.1 hf
        exact isCodeSet_inFragmentSet.of_mem_encode (by simpa using hc)

/-- What is written behind a path. -/
def tailText (u : Web) : List Char :=
  (u.query.elim [] fun q => '?' :: q.toList) ++ u.fragment.elim [] fun f => '#' :: f.toList

/-- What is written behind the slashes. -/
def written (u : Web) : List Char :=
  u.authority.written ++ ((pathText u.path).toList ++ u.tailText)

theorem toList_text (u : Web) :
    u.text.toList = u.scheme.name.toList ++ ':' :: '/' :: '/' :: u.written := by
  obtain ⟨scheme, ⟨user, host, port⟩, path, query, fragment⟩ := u
  cases port <;> cases query <;> cases fragment <;>
    simp [text, written, Authority.written, portText, tailText]

theorem cutTail_tailText (h : u.IsNormal) :
    cutTail u.tailText = (u.query.map String.toList, u.fragment.map String.toList) := by
  obtain ⟨scheme, authority, path, query, fragment⟩ := u
  have hquery : ∀ q ∈ query, ∀ c ∈ q.toList, (c != '#') = true := by
    intro q hq c hc
    rw [bne_iff_ne]
    rintro rfl
    exact absurd (h.query q hq '#' hc) (by decide)
  cases query with
  | none => cases fragment <;> rfl
  | some q =>
      cases fragment with
      | none =>
          simp only [tailText, Option.elim, List.append_nil, cutTail]
          rw [Text.span_eq_self (hquery q rfl)]
          rfl
      | some f =>
          simp only [tailText, Option.elim, List.cons_append, cutTail]
          rw [Text.span_append (hquery q rfl) (by simp)]
          rfl

/-- A coded part is not coded again. -/
theorem map_encode {inSet : Char → Bool} {part : Option String}
    (h : ∀ q ∈ part, ∀ c ∈ q.toList, inSet c = false) :
    ((part.map String.toList).map fun q => String.ofList (encode inSet q)) = part := by
  cases part with
  | none => rfl
  | some q =>
      simp only [Option.map_some]
      rw [encode_of_forall_not (h q rfl), String.ofList_toList]

theorem isPrintable_of_mem_tailText (h : u.IsNormal) (hc : c ∈ u.tailText) :
    Text.isPrintable c = true := by
  obtain ⟨scheme, authority, path, query, fragment⟩ := u
  rcases List.mem_append.1 hc with hc | hc
  · cases query with
    | none => cases hc
    | some q =>
        rcases List.mem_cons.1 hc with rfl | hc
        · decide
        · exact isPrintable_of_inQuerySet (h.query q rfl c hc)
  · cases fragment with
    | none => cases hc
    | some f =>
        rcases List.mem_cons.1 hc with rfl | hc
        · decide
        · exact isPrintable_of_inFragmentSet (h.fragment f rfl c hc)

theorem isPrintable_of_mem_written (h : u.IsNormal) (hc : c ∈ u.written) :
    Text.isPrintable c = true := by
  rcases List.mem_append.1 hc with hc | hc
  · exact (Authority.isPrintable_of_mem_written h.authority hc).1
  · rcases List.mem_append.1 hc with hc | hc
    · exact (h.path.isPrintable hc).1
    · exact isPrintable_of_mem_tailText h hc

/-- What is written for a web address is read as it, if its host can be read. -/
theorem parse_written (h : u.IsNormal) :
    parse u.scheme u.written =
      if u.authority.host.IsReadable then .ok u else .error .invalidName := by
  have hauthority : ∀ c ∈ u.authority.written, (! endsAuthority true c) = true := by
    intro c hc
    simp [(Authority.isPrintable_of_mem_written h.authority hc).2]
  have hpath : ∀ c ∈ (pathText u.path).toList, isPathChar c = true := by
    intro c hc
    obtain ⟨-, hquery, hfragment⟩ := h.path.isPrintable hc
    simp [isPathChar, hquery, hfragment]
  have htail : ∀ c ∈ u.tailText.head?, isPathChar c = false := by
    obtain ⟨scheme, authority, path, query, fragment⟩ := u
    cases query <;> cases fragment <;> simp [tailText, isPathChar]
  have hrest : ∀ c ∈ ((pathText u.path).toList ++ u.tailText).head?,
      (! endsAuthority true c) = false := by
    obtain ⟨rest, hslash⟩ := h.path.exists_eq_cons
    rw [hslash]
    rintro c ⟨⟩
    decide
  have hparts : ofParts u.scheme ((pathText u.path).toList ++ u.tailText) u.authority = u := by
    rw [ofParts, Text.span_append hpath htail, cutTail_tailText h, parsePath_pathText h.path]
    simp only [map_encode h.query, map_encode h.fragment]
  rw [parse_eq, written, Text.span_append hauthority hrest, Authority.parse_written h.authority]
  split
  · exact congrArg Except.ok hparts
  · rfl

end Web

/-! ## URLs -/

theorem Web.isPrintable_of_mem_text {u : Web} (h : u.IsNormal) {c : Char}
    (hc : c ∈ u.text.toList) : Text.isPrintable c = true := by
  have hscheme : ∀ scheme : WebScheme, ∀ c ∈ scheme.name.toList, Text.isPrintable c = true := by
    rintro (_ | _) <;> simp [WebScheme.name] <;> decide
  rw [Web.toList_text] at hc
  rcases List.mem_append.1 hc with hc | hc
  · exact hscheme u.scheme c hc
  · simp only [List.mem_cons] at hc
    rcases hc with rfl | rfl | rfl | hc
    · decide
    · decide
    · decide
    · exact Web.isPrintable_of_mem_written h hc

theorem cutScheme?_name (scheme : WebScheme) (rest : List Char) :
    cutScheme? (scheme.name.toList ++ ':' :: rest) = some (scheme.name, rest) := by
  have hname : scheme.name.toList.all isSchemeChar = true := by cases scheme <;> decide
  have hspan := Text.span_append (List.all_eq_true.1 hname)
    (show ∀ c ∈ (':' :: rest).head?, isSchemeChar c = false by
      rintro c ⟨⟩
      decide)
  have hletter : ∃ first more, scheme.name.toList = first :: more ∧ first.isAlpha = true := by
    cases scheme <;> exact ⟨_, _, rfl, by decide⟩
  obtain ⟨first, more, hfirst, halpha⟩ := hletter
  rw [hfirst] at hspan ⊢
  rw [List.cons_append, cutScheme?, if_pos halpha, ← List.cons_append, hspan, ← hfirst]
  cases scheme <;> rfl

theorem ofName?_name (scheme : WebScheme) : WebScheme.ofName? scheme.name = some scheme := by
  cases scheme <;> rfl

theorem isSlash_of_endsAuthority {c : Char} (h : endsAuthority true c = false) :
    isSlash c = false := by
  simp only [endsAuthority, Bool.or_eq_false_iff, Bool.true_and] at h
  simp [isSlash, h]

/-- Behind its two slashes a text of one of the schemes is read as a web address. -/
theorem read_web (scheme : WebScheme) {rest : List Char}
    (hplain : ∀ c ∈ rest, isEdge c = false ∧ isBreak c = false)
    (hslash : ∀ c ∈ rest.head?, isSlash c = false) :
    read (scheme.name.toList ++ ':' :: '/' :: '/' :: rest) =
      (Web.parse scheme rest).map .web := by
  have hall : ∀ c ∈ scheme.name.toList ++ ':' :: '/' :: '/' :: rest,
      isEdge c = false ∧ isBreak c = false := by
    have hscheme : ∀ c ∈ scheme.name.toList, isEdge c = false ∧ isBreak c = false := by
      cases scheme <;> simp [WebScheme.name] <;> decide
    intro c hc
    rcases List.mem_append.1 hc with hc | hc
    · exact hscheme c hc
    · simp only [List.mem_cons] at hc
      rcases hc with rfl | rfl | rfl | hc
      · decide
      · decide
      · decide
      · exact hplain c hc
  have hdrop : ('/' :: '/' :: rest).dropWhile isSlash = rest := by
    rw [List.dropWhile_cons_of_pos (by decide), List.dropWhile_cons_of_pos (by decide)]
    cases rest with
    | nil => rfl
    | cons c rest => exact List.dropWhile_cons_of_neg (by simp [hslash c rfl])
  rw [read, Text.trimBy_of_forall_not fun c hc => (hall c hc).1,
    List.filter_eq_self.2 fun c hc => by simp [(hall c hc).2], cutScheme?_name]
  simp only [ofName?_name, hdrop]

/-- What is read as a web address is in normal form. -/
theorem isNormal_of_read {text : List Char} {u : Web} (h : read text = .ok (.web u)) :
    u.IsNormal := by
  have hmap : ∀ {α : Type} {f : α → Reading} {result : Except Fault α} {reading : Reading},
      result.map f = .ok reading → ∃ a, result = .ok a ∧ f a = reading := by
    intro α f result reading h
    cases result with
    | error fault => cases h
    | ok a => exact ⟨a, rfl, Except.ok.inj h⟩
  rw [read] at h
  split at h
  · cases h
  · split at h
    · obtain ⟨v, hparse, hv⟩ := hmap h
      cases hv
      exact Web.isNormal_of_parse hparse
    · -- a URL of another scheme is no web address
      split at h <;> obtain ⟨-, -, hv⟩ := hmap h <;> cases hv

/-- The text of a web address is read as it, if its host can be read. -/
theorem read_text {u : Web} (h : u.IsNormal) :
    read u.text.toList =
      if u.authority.host.IsReadable then .ok (.web u) else .error .invalidName := by
  have hplain : ∀ c ∈ u.written, isEdge c = false ∧ isBreak c = false := fun c hc =>
    (Text.not_blank_of_isPrintable (Web.isPrintable_of_mem_written h hc)).2
  have hslash : ∀ c ∈ u.written.head?, isSlash c = false := by
    obtain ⟨first, rest, hcons⟩ := List.exists_cons_of_ne_nil (Authority.written_ne_nil h.authority)
    intro c hc
    rw [Web.written, hcons] at hc
    obtain rfl : first = c := Option.some.inj hc
    exact isSlash_of_endsAuthority
      (Authority.isPrintable_of_mem_written h.authority (hcons ▸ List.mem_cons_self)).2
  rw [Web.toList_text, read_web u.scheme hplain hslash, Web.parse_written h]
  split <;> rfl

end Url

namespace Endpoint

variable {text : String} {e : Endpoint}

theorem read_of_parse (h : parse text = .ok e) :
    Text.trim text.toList ≠ [] ∧ Url.read (Text.trim text.toList) = .ok (.web e.url) := by
  rw [parse, read] at h
  by_cases hempty : Text.trim text.toList = []
  · simp [hempty] at h
  · rw [if_neg (by simpa using hempty)] at h
    refine ⟨hempty, ?_⟩
    cases hread : Url.read (Text.trim text.toList) with
    | error fault => simp [hread] at h
    | ok reading =>
        cases reading with
        | other scheme => simp [hread] at h
        | web url =>
            simp only [hread] at h
            cases h
            rfl

theorem isNormal_of_parse (h : parse text = .ok e) : e.url.IsNormal :=
  Url.isNormal_of_read (read_of_parse h).2

/-- The text of an endpoint is read as the endpoint, if its host can be read. -/
theorem parse_text (h : parse text = .ok e) :
    parse e.text =
      if e.url.authority.host.IsReadable then .ok e
      else .error (.invalidEndpoint e.text Url.Fault.invalidName.message) := by
  have hnormal := isNormal_of_parse h
  have htrim : Text.trim e.text.toList = e.text.toList :=
    Text.trim_of_isPrintable fun c hc => Url.Web.isPrintable_of_mem_text hnormal hc
  have htext : e.text.toList = e.url.text.toList := rfl
  have hne : e.text.toList ≠ [] := by
    rw [htext, Url.Web.toList_text]
    simp
  rw [parse, htrim, read, if_neg (by simpa using hne), htext, Url.read_text hnormal]
  by_cases hreadable : e.url.authority.host.IsReadable
  · simp only [if_pos hreadable]
  · simp only [if_neg hreadable]
    rfl

end Endpoint

end BrokerMonitor
