import Mathlib.Data.List.Basic
import BrokerMonitor.BrokerStatus
/-!
# What a status should say

A status is folded from reports and never looks back: once connected, it stays connected. `Exact`
is what it should say of its resources all the same. A report keeps it exact as long as it does not
take back that its resource streams, and as long as a resource without a connection has no more to
report than that it is idle.
-/

namespace BrokerMonitor

theorem ResourceMap.any_isUp_values (m : ResourceMap StreamStatus) :
    m.values.any (·.isUp) = true ↔ ∃ r, m.get? r = some .streaming := by
  simp only [List.any_eq_true, StreamStatus.isUp_iff, values, toList, List.mem_map,
    List.mem_filterMap, Option.map_eq_some_iff]
  constructor
  · rintro ⟨_, ⟨⟨r, s⟩, ⟨r', -, s', hget, hpair⟩, rfl⟩, rfl⟩
    cases hpair
    exact ⟨r, hget⟩
  · rintro ⟨r, hget⟩
    exact ⟨_, ⟨(r, .streaming), ⟨r, r.mem_all, _, hget, rfl⟩, rfl⟩, rfl⟩

namespace BrokerStatus

theorem streams_of_accept? {s t : BrokerStatus} {report : Report}
    (h : s.accept? report = some t) :
    t.streams = s.streams.insert report.resource report.status := by
  unfold accept? at h
  split at h
  · cases h
    rfl
  · cases h

/-- Some resource is listed as streaming. -/
def Streaming (s : BrokerStatus) : Prop := ∃ r, s.streams.get? r = some .streaming

/-- A status says what it should; `attached` tells whether there is a connection. -/
structure Exact (s : BrokerStatus) (attached : Bool) : Prop where
  listed : ∀ r, (s.streams.get? r).isSome
  connected : s.connected = true ↔ s.Streaming
  loading : s.loading = true ↔ attached = true ∧ ¬ s.Streaming
  detached : attached = false →
    (∀ r, s.streams.get? r = some .idle) ∧ s.loading = false ∧ s.connected = false
  exclusive : ¬ (s.loading = true ∧ s.connected = true)
  connecting_phase : s.phase = .connecting ↔ attached = true ∧ ¬ s.Streaming
  connected_phase : s.phase = .connected ↔ s.Streaming
  disconnected_phase : s.phase = .disconnected ↔ attached = false

namespace Exact

variable {s t : BrokerStatus} {attached : Bool}

/-- The two flags decide the rest. -/
theorem of_flags (listed : ∀ r, (s.streams.get? r).isSome)
    (connected : s.connected = true ↔ s.Streaming)
    (loading : s.loading = true ↔ attached = true ∧ ¬ s.Streaming)
    (idle : attached = false → ∀ r, s.streams.get? r = some .idle) : s.Exact attached := by
  have hdetached : attached = false → ¬ s.Streaming := by
    rintro ha ⟨r, hr⟩
    rw [idle ha r] at hr
    cases hr
  by_cases hs : s.Streaming
  · have hc : s.connected = true := connected.mpr hs
    have hl : s.loading = false := by simpa [hs] using loading
    have ha : attached = true := by simpa [hs] using hdetached
    exact ⟨listed, connected, loading, by simp [ha], by simp [hl], by simp [phase, hl, hc, hs],
      by simp [phase, hl, hc, hs], by simp [phase, hl, hc, ha]⟩
  · have hc : s.connected = false := by simpa [hs] using connected
    have hl : s.loading = attached := by simpa [hs] using loading
    refine ⟨listed, connected, loading, ?_, by simp [hc], ?_, ?_, ?_⟩
    · exact fun ha => ⟨idle ha, hl.trans ha, hc⟩
    all_goals cases attached <;> simp [phase, hl, hc, hs]

/-- A generation starts exact. -/
theorem begin (g : Generation) (attached : Bool) :
    (BrokerStatus.begin g attached).Exact attached := by
  have hidle : ∀ r, (BrokerStatus.begin g attached).streams.get? r = some .idle :=
    fun r => ResourceMap.get?_const StreamStatus.idle r
  have hs : ¬ (BrokerStatus.begin g attached).Streaming := by
    rintro ⟨r, hr⟩
    rw [hidle r] at hr
    cases hr
  refine of_flags (fun r => by simp [hidle r]) ?_ ?_ fun _ => hidle
  · simpa [BrokerStatus.begin, BrokerStatus.detached] using hs
  · have hloading : (BrokerStatus.begin g attached).loading = attached := rfl
    simp [hloading, hs]

/-- A report keeps a status exact, unless it takes back that a resource streams or brings news of a
stream where there is no connection. -/
theorem accept? (h : s.Exact attached) {report : Report} (haccept : s.accept? report = some t)
    (hkeep : s.streams.get? report.resource ≠ some .streaming)
    (hidle : attached = false → report.status = .idle) : t.Exact attached := by
  unfold BrokerStatus.accept? at haccept
  split at haccept
  · obtain rfl := Option.some.inj haccept
    have hget : ∀ r, (s.streams.insert report.resource report.status).get? r =
        if r = report.resource then some report.status else s.streams.get? r :=
      fun r => ResourceMap.get?_insert ..
    -- A resource that streams is not the one reported on, so it still streams.
    have hstays : s.Streaming →
        ∃ r, (s.streams.insert report.resource report.status).get? r = some .streaming := by
      rintro ⟨r, hr⟩
      refine ⟨r, ?_⟩
      rw [ResourceMap.get?_insert_of_ne _ _ (by rintro rfl; exact hkeep hr)]
      exact hr
    refine of_flags ?_ ?_ ?_ ?_
    · intro r
      simp only [hget]
      split
      · rfl
      · exact h.listed r
    · simp only [Bool.or_eq_true, ResourceMap.any_isUp_values, h.connected]
      exact ⟨fun h => h.elim hstays id, .inr⟩
    · simp only [Bool.and_eq_true, Bool.not_eq_true', h.loading, ← Bool.not_eq_true,
        ResourceMap.any_isUp_values]
      exact ⟨fun ⟨⟨ha, _⟩, hs⟩ => ⟨ha, hs⟩, fun ⟨ha, hs⟩ => ⟨⟨ha, fun h => hs (hstays h)⟩, hs⟩⟩
    · intro ha r
      simp only [hget]
      split
      · rw [hidle ha]
      · exact (h.detached ha).1 r
  · cases haccept

end Exact

end BrokerStatus

end BrokerMonitor
