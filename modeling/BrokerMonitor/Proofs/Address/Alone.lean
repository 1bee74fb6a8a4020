import BrokerMonitor.Proofs.Address.NormalForm
/-!
# A host alone

A host behind `http://` is an endpoint without a user, a port, a query or a fragment, as long as the
host has no character that would end it.
-/

namespace BrokerMonitor

open Url

/-- A character that belongs to the host, wherever it stands behind the slashes. -/
def Text.isBare (c : Char) : Bool :=
  !isBlank c && !isEdge c && !isBreak c && !endsAuthority true c &&
    !(['@', ':', '[', ']'].contains c)

section Bare

variable {given : List Char} {host : Host}

theorem Text.of_isBare {c : Char} (h : isBare c = true) :
    (isBlank c = false ∧ isEdge c = false ∧ isBreak c = false) ∧ endsAuthority true c = false ∧
      c ≠ '@' ∧ c ≠ ':' ∧ c ≠ '[' ∧ c ≠ ']' := by
  simpa [isBare, and_assoc] using h

/-- The endpoint of a host alone. -/
def Endpoint.ofHost (host : Host) : Endpoint := ⟨⟨.http, ⟨{}, host, none⟩, [""], none, none⟩⟩

theorem Authority.parse_of_isBare (h : ∀ c ∈ given, Text.isBare c = true) (hne : given ≠ [])
    (hhost : Host.parse given = .ok host) (ownPort : Nat) :
    Authority.parse ownPort given = .ok ⟨{}, host, none⟩ := by
  have huser : cutUser given = none :=
    cutUser_of_not_mem fun hmem => (Text.of_isBare (h '@' hmem)).2.2.1 rfl
  have hcut : cutHost false given = (given, []) := by
    have hall := fun c hc => (Text.of_isBare (h c hc)).2.2.2
    simpa [cutHost] using @Host.cutHost_append given [] hall
  rw [Authority.parse_eq, huser]
  simp only [Authority.readHost, hcut, hhost, parsePort, bind, Except.bind]
  simp [hne]

theorem Web.parse_of_isBare (h : ∀ c ∈ given, Text.isBare c = true) (hne : given ≠ [])
    (hhost : Host.parse given = .ok host) :
    Web.parse .http given = .ok (Endpoint.ofHost host).url := by
  have hend : ∀ c ∈ given, (! endsAuthority true c) = true := by
    intro c hc
    simp [(Text.of_isBare (h c hc)).2.1]
  rw [Web.parse_eq, Text.span_eq_self hend, Authority.parse_of_isBare h hne hhost]
  rfl

/-- A host that can be read is an endpoint. -/
theorem Endpoint.parse_of_isBare (h : ∀ c ∈ given, Text.isBare c = true) (hne : given ≠ [])
    (hhost : Host.parse given = .ok host) :
    Endpoint.parse ("http://" ++ String.ofList given) = .ok (Endpoint.ofHost host) := by
  have htext : ("http://" ++ String.ofList given).toList =
      WebScheme.http.name.toList ++ ':' :: '/' :: '/' :: given := by
    simp [WebScheme.name]
  have hblank : ∀ c ∈ WebScheme.http.name.toList ++ ':' :: '/' :: '/' :: given,
      Text.isBlank c = false := by
    have hfront : ['h', 't', 't', 'p', ':', '/', '/'].any Text.isBlank = false := by decide
    intro c hc
    rcases List.mem_append.1 (show c ∈ ['h', 't', 't', 'p', ':', '/', '/'] ++ given from hc) with
      hc | hc
    · simpa using List.any_eq_false.1 hfront c hc
    · exact (Text.of_isBare (h c hc)).1.1
  have hplain : ∀ c ∈ given, isEdge c = false ∧ isBreak c = false :=
    fun c hc => (Text.of_isBare (h c hc)).1.2
  have hslash : ∀ c ∈ given.head?, isSlash c = false := fun c hc =>
    isSlash_of_endsAuthority (Text.of_isBare (h c (List.mem_of_mem_head? hc))).2.1
  rw [Endpoint.parse, htext, Text.trim, Text.trimBy_of_forall_not hblank, Endpoint.read,
    if_neg (by simp), read_web .http hplain hslash, Web.parse_of_isBare h hne hhost]
  rfl

end Bare

end BrokerMonitor
