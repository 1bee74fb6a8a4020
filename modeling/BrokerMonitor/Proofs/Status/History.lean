import Mathlib.Data.List.DropRight
import BrokerMonitor.Proofs.Observation.Line
import BrokerMonitor.Proofs.Status.Exact
/-!
# The status as a function of its history

What a board has come to depends on two things in its history: the generation that was opened last,
and the reports of that generation that have come since. `Reflects` is this relation, kept by every
event. Being connected latches while the list of streams does not, so it is the reports as a whole
that decide it, and not the streams that are listed in the end.
-/

namespace BrokerMonitor

namespace StatusBoard

/-- The generation that an event opens, and whether there is a connection in it. -/
def Event.opening? : Event → Option (Generation × Bool)
  | .begin g attached => some (g, attached)
  | _ => none

def Event.report? : Event → Option Report
  | .report r => some r
  | _ => none

/-- What was opened last. At first this is the initial generation, without a connection. -/
def lastOpening (events : List Event) : Generation × Bool :=
  ((events.filterMap (·.opening?)).getLast?).getD (.initial, false)

/-- The reports that have come since the last opening and carry its generation. -/
def heeded (events : List Event) : List Report :=
  ((events.rtakeWhile (·.opening?.isNone)).filterMap (·.report?)).filter
    (·.generation = (lastOpening events).1)

/-- The last status that some reports give for a resource, which is idle if there is none. -/
def lastStatus (reports : List Report) (r : Resource) : StreamStatus :=
  (((reports.filter (·.resource = r)).getLast?).map (·.status)).getD .idle

/-- One of the reports says that its stream delivers. -/
def streamed (reports : List Report) : Bool := reports.any (·.status.isUp)

theorem lastStatus_concat (reports : List Report) (told : Report) (r : Resource) :
    lastStatus (reports ++ [told]) r =
      if r = told.resource then told.status else lastStatus reports r := by
  by_cases h : told.resource = r
  · simp [lastStatus, h]
  · simp [lastStatus, h, Ne.symm h]

theorem streamed_concat (reports : List Report) (told : Report) :
    streamed (reports ++ [told]) = (streamed reports || told.status.isUp) := by
  simp [streamed]

/-- A resource is last said to stream only if it was said to. -/
theorem streamed_of_lastStatus {reports : List Report} {r : Resource}
    (h : lastStatus reports r = .streaming) : streamed reports = true := by
  cases hlast : (reports.filter (·.resource = r)).getLast? with
  | none => simp [lastStatus, hlast] at h
  | some told =>
      have hmem := (List.mem_filter.mp (List.mem_of_getLast? hlast)).1
      have hup : told.status = .streaming := by simpa [lastStatus, hlast] using h
      exact List.any_eq_true.mpr ⟨told, hmem, (StreamStatus.isUp_iff _).mpr hup⟩

/-! ### One event more -/

section Concat

variable (events : List Event)

theorem lastOpening_begin (g : Generation) (attached : Bool) :
    lastOpening (events ++ [.begin g attached]) = (g, attached) := by
  simp [lastOpening, Event.opening?]

theorem heeded_begin (g : Generation) (attached : Bool) :
    heeded (events ++ [.begin g attached]) = [] := by
  simp [heeded, Event.opening?]

theorem lastOpening_concat {e : Event} (h : e.opening? = none) :
    lastOpening (events ++ [e]) = lastOpening events := by
  simp [lastOpening, h]

theorem heeded_concat {e : Event} (h : e.opening? = none) :
    heeded (events ++ [e]) =
      heeded events ++ e.report?.toList.filter (·.generation = (lastOpening events).1) := by
  cases he : e.report? <;>
    simp [heeded, lastOpening_concat events h, h, he]

end Concat

end StatusBoard

namespace BrokerStatus

open StatusBoard

/-- The status is what the reports make of a generation that was opened. -/
structure Reflects (s : BrokerStatus) (opened : Generation × Bool) (reports : List Report) :
    Prop where
  generation : s.generation = opened.1
  listed : ∀ r, s.streams.get? r = some (lastStatus reports r)
  connected : s.connected = streamed reports
  loading : s.loading = (opened.2 && !streamed reports)

namespace Reflects

variable {s t : BrokerStatus} {opened : Generation × Bool} {reports : List Report}

theorem begin (g : Generation) (attached : Bool) :
    (BrokerStatus.begin g attached).Reflects (g, attached) [] where
  generation := rfl
  listed r := ResourceMap.get?_const StreamStatus.idle r
  connected := rfl
  loading := (Bool.and_true attached).symm

/-- With one report more a resource streams only if one was said to. Once one was, it makes no
difference to the flags whether this one still does. -/
theorem accept? (h : s.Reflects opened reports) {told : Report} (ht : s.accept? told = some t) :
    t.Reflects opened (reports ++ [told]) := by
  have hstreams := streams_of_accept? ht
  have hlisted : ∀ r, t.streams.get? r = some (lastStatus (reports ++ [told]) r) := by
    intro r
    rw [hstreams, ResourceMap.get?_insert, lastStatus_concat, h.listed]
    split <;> rfl
  have hup : (streamed reports || t.streams.values.any (·.isUp)) =
      streamed (reports ++ [told]) := by
    rw [Bool.eq_iff_iff, Bool.or_eq_true, ResourceMap.any_isUp_values]
    constructor
    · rintro (hbefore | ⟨r, hr⟩)
      · rw [streamed_concat, hbefore, Bool.true_or]
      · exact streamed_of_lastStatus (Option.some.inj ((hlisted r).symm.trans hr))
    · intro hafter
      rw [streamed_concat, Bool.or_eq_true] at hafter
      refine hafter.imp id fun htold => ⟨told.resource, ?_⟩
      rw [hlisted, lastStatus_concat, if_pos rfl, (StreamStatus.isUp_iff _).mp htold]
  unfold BrokerStatus.accept? at ht
  split at ht
  · obtain rfl := Option.some.inj ht
    refine ⟨h.generation, hlisted, ?_, ?_⟩
    · rw [← hup, ← h.connected]
    · rw [← hup, Bool.not_or, ← Bool.and_assoc, ← h.loading]
  · cases ht

/-- Each event is to the board what it is to the history. -/
theorem after {b : StatusBoard} {events : List Event}
    (h : b.current.Reflects (lastOpening events) (heeded events)) (e : Event) :
    (b.after e).current.Reflects (lastOpening (events ++ [e])) (heeded (events ++ [e])) := by
  cases e with
  | begin g attached =>
      rw [lastOpening_begin, heeded_begin]
      exact begin g attached
  | report told =>
      rw [lastOpening_concat events rfl, heeded_concat events rfl]
      simp only [StatusBoard.after, Event.report?, Option.toList_some]
      by_cases hg : told.generation = (lastOpening events).1
      · obtain ⟨t, ht⟩ := Option.isSome_iff_exists.mp
          ((b.current.accept?_isSome_iff told).mpr (hg.trans h.generation.symm))
        rw [List.filter_cons_of_pos (by simpa using hg), List.filter_nil, StatusBoard.report, ht]
        exact h.accept? ht
      · rw [List.filter_cons_of_neg (by simpa using hg), List.filter_nil, List.append_nil,
          StatusBoard.report_of_stale fun hsame => hg (hsame.trans h.generation)]
        exact h
  | listen | take i | unlisten i =>
      rw [current_after, lastOpening_concat events rfl, heeded_concat events rfl]
      simpa [Event.report?, recompute?] using h

theorem afterAll (events : List Event) :
    (initial.afterAll events).current.Reflects (lastOpening events) (heeded events) := by
  induction events using List.reverseRecOn with
  | nil => exact begin .initial false
  | append_singleton events e ih =>
      rw [afterAll_append]
      exact ih.after e

end Reflects

end BrokerStatus

namespace StatusBoard

/-- After any series of events the status carries the generation that was opened last. Each resource
is listed with the last status reported for it in that generation since, and is idle if there was
none. It is connected if anything that was reported so is `streaming`, and it is loading if nothing
was although there is a connection. Reports of the generation are taken, and those of any other,
earlier or later, are not taken and change nothing. -/
theorem status_follows_history (events : List Event) :
    let b := initial.afterAll events
    let opened := lastOpening events
    let reports := heeded events
    b.current.generation = opened.1 ∧
    (∀ r, b.current.streams.get? r = some (lastStatus reports r)) ∧
    b.current.connected = streamed reports ∧
    b.current.loading = (opened.2 && !streamed reports) ∧
    ∀ told : Report,
      ((b.current.accept? told).isSome = true ↔ told.generation = opened.1) ∧
      (told.generation ≠ opened.1 → b.current.accept? told = none ∧ b.report told = b) := by
  intro b opened reports
  have h : b.current.Reflects opened reports := BrokerStatus.Reflects.afterAll events
  refine ⟨h.generation, h.listed, h.connected, h.loading, fun told => ⟨?_, fun hstale => ?_⟩⟩
  · rw [BrokerStatus.accept?_isSome_iff, h.generation]
  · rw [← h.generation] at hstale
    exact ⟨if_neg hstale, report_of_stale hstale⟩

/-- Channels stream and are then said to be idle again, which leaves the connection connected with
no stream. A report of a generation that has not been opened yet is not taken. -/
theorem status_follows_history_of_a_step_back :
    let g : Generation := ⟨1⟩
    let later : Report := ⟨.adapters, ⟨2⟩, .streaming⟩
    let events : List Event := [.begin g true, .report ⟨.channels, g, .streaming⟩, .report later,
      .report ⟨.channels, g, .idle⟩]
    let b := initial.afterAll events
    later.generation ≠ (lastOpening events).1 ∧ b.report later = b ∧
      b.current.connected = true ∧ ∀ r, b.current.streams.get? r = some .idle := by
  intro g later events b
  obtain ⟨-, hlisted, hconnected, -, htold⟩ := status_follows_history events
  have hlater : later.generation ≠ (lastOpening events).1 := by decide
  refine ⟨hlater, ((htold later).2 hlater).2, hconnected.trans (by decide), fun r => ?_⟩
  rw [hlisted r]
  cases r <;> decide

end StatusBoard

end BrokerMonitor
