import BrokerMonitor.Proofs.Address.LongNames
/-!
# Reading an endpoint again

The text of an endpoint is its normal form: it is read as the same endpoint, and only names with
labels too long to be read are refused. Blanks around a text make no difference but to the text that
a refusal quotes.
-/

namespace BrokerMonitor.Endpoint

/-- No label of the host is too long to be read. -/
def IsReadable (e : Endpoint) : Prop := ∀ label ∈ Idna.labels e.host.toList, Idna.IsReadable label

instance (e : Endpoint) : Decidable e.IsReadable :=
  inferInstanceAs (Decidable (∀ label ∈ Idna.labels e.host.toList, Idna.IsReadable label))

/-- An accepted text gives an endpoint of the web with a host, and the endpoint's own text is read
as the same endpoint; where a label of the host is longer than a label that is read, it is refused.
The result depends on the text without the blanks around it, but for the text that a refusal
quotes. -/
theorem normal_form_is_read_again (text : String) :
    (∀ e, parse text = .ok e →
      (e.url.scheme.name = "http" ∨ e.url.scheme.name = "https") ∧ e.host ≠ "" ∧
      parse e.text =
        if e.IsReadable then .ok e
        else .error (.invalidEndpoint e.text "invalid international domain name")) ∧
    (∀ error, parse text = .error error → ∃ reason, error = .invalidEndpoint text reason) ∧
    ∀ other : String, Text.trim other.toList = Text.trim text.toList →
      (∀ e, parse other = .ok e ↔ parse text = .ok e) ∧
      ∀ reason, parse other = .error (.invalidEndpoint other reason) ↔
        parse text = .error (.invalidEndpoint text reason) := by
  refine ⟨fun e h => ⟨?scheme, ?host, ?again⟩, fun error => exists_of_parse_eq_error,
    fun other htrim => ?trimmed⟩
  case scheme => cases e.url.scheme <;> simp [Url.WebScheme.name]
  case host =>
    intro hempty
    have hne := Url.Host.text_ne_nil (isNormal_of_parse h).authority.host
    exact hne (congrArg String.toList hempty)
  case again => exact parse_text h
  case trimmed =>
    rw [parse, parse, htrim]
    cases read (Text.trim text.toList) <;> simp

/-- An address of eight pieces with blanks around it, in other letters and with a port, a path and a
query that are not in normal form. -/
theorem normal_form_is_read_again_for_an_address :
    ∃ e, parse " HTTP://u@[0:0::1]:80/a/../b?c d " = .ok e ∧ e.text = "http://u@[::1]/b?c%20d" ∧
      parse e.text = .ok e := by
  have h : parse " HTTP://u@[0:0::1]:80/a/../b?c d " =
      .ok ⟨⟨.http, ⟨⟨"u", ""⟩, .ipv6 ⟨#v[0, 0, 0, 0, 0, 0, 0, 1]⟩, none⟩, ["b"], some "c%20d",
        none⟩⟩ := by decide +kernel
  have hagain := ((normal_form_is_read_again _).1 _ h).2.2
  rw [if_pos (by decide +kernel)] at hagain
  exact ⟨_, h, by decide +kernel, hagain⟩

/-! ## A label that outgrows what is read -/

/-- Ideographs that lie 60 apart. -/
def scattered : List Char := (List.range 700).map fun i => Char.ofNat (0x20000 + 60 * i)

theorem toNat_scattered {i : Nat} (h : i < 700) :
    (Char.ofNat (0x20000 + 60 * i)).toNat = 0x20000 + 60 * i := by
  rw [Char.ofNat, dif_pos (.inr ⟨by omega, by omega⟩)]
  exact UInt32.toNat_ofNatLT

theorem map_toNat_scattered :
    scattered.map Char.toNat = (List.range 700).map fun i => 0x20000 + 60 * i := by
  rw [scattered, List.map_map]
  exact List.map_congr_left fun i hi => toNat_scattered (List.mem_range.1 hi)

theorem isIdeograph_of_mem_scattered {c : Char} (h : c ∈ scattered) :
    Unicode.isIdeograph c = true := by
  obtain ⟨i, hi, rfl⟩ := List.mem_map.1 h
  have hlt := List.mem_range.1 hi
  simp only [Unicode.isIdeograph, toNat_scattered hlt, Bool.or_eq_true, Bool.and_eq_true,
    decide_eq_true_eq]
  omega

theorem exists_encode?_scattered :
    ∃ text, Idna.Punycode.encode? scattered = some text ∧ Idna.Punycode.maxRead < text.length := by
  have hlength : scattered.length = 700 := by simp [scattered]
  have hgaps : (scattered.map Char.toNat).Pairwise (· + 60 ≤ ·) := by
    rw [map_toNat_scattered, List.pairwise_map]
    refine List.pairwise_lt_range.imp fun hlt => ?_
    omega
  have hlabel : ∀ c ∈ scattered, 256 ≤ c.toNat := by
    intro c hc
    have := Idna.bounds_of_isIdeograph (isIdeograph_of_mem_scattered hc)
    omega
  have hencode : ∃ text, Idna.Punycode.encode? scattered = some text :=
    ⟨_, if_pos (by rw [hlength]; decide)⟩
  obtain ⟨text, htext⟩ := hencode
  have hlong := Idna.Punycode.length_of_encode? htext hlabel hgaps
  refine ⟨text, htext, ?_⟩
  rw [Idna.Punycode.maxRead]
  omega

/-- The scattered ideographs are a host, but the normal form of their endpoint is refused. -/
theorem normal_form_need_not_be_read_again :
    ∃ e, parse ("http://" ++ String.ofList scattered) = .ok e ∧
      parse e.text =
        .error (.invalidEndpoint e.text "invalid international domain name") := by
  obtain ⟨text, htext, hlong⟩ := exists_encode?_scattered
  have hne : scattered ≠ [] := by simp [scattered]
  have hhost := Url.Host.parse_of_ideographs (fun c => isIdeograph_of_mem_scattered) hne htext
  have hparse := parse_of_isBare
    (fun c hc => Text.isBare_of_isIdeograph (isIdeograph_of_mem_scattered hc)) hne hhost
  have hpoint := Idna.point_not_mem_of_encode? htext fun hmem =>
    absurd (isIdeograph_of_mem_scattered hmem) (by decide)
  have hunreadable : ¬(Url.Host.domain (String.ofList (Idna.marker ++ text))).IsReadable := by
    intro hreadable
    have hlength := hreadable (Idna.marker ++ text)
      (by simp [Url.Host.text, Idna.labels_of_point_not_mem hpoint]) (List.prefix_append _ _)
    rw [List.length_append] at hlength
    omega
  refine ⟨_, hparse, ?_⟩
  rw [parse_text hparse]
  exact if_neg hunreadable

end BrokerMonitor.Endpoint
