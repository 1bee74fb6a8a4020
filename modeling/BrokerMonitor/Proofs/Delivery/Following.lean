import BrokerMonitor.Proofs.Delivery.Contents
import BrokerMonitor.Proofs.Delivery.Start
/-!
# Following a feed

A task of the current generation follows the feed that it has opened (`Follows`): its slot holds the
messages that were put into the feed, up to what still waits there, and once the task has come to a
failure or to the end, it holds all that count. Each run of the task takes over what waits, and
nobody else's run gets in the way.
-/

namespace BrokerMonitor

namespace Reporter

/-- The stream was opened: its task has said that it is connecting, if not more. -/
def Opened (r : Reporter) : Prop := r.last = some .connecting ∨ r.last = some .streaming

theorem opened_report_connecting (r : Reporter) : (r.report .connecting).1.Opened := by
  rcases r with ⟨resource, generation, _ | last⟩
  · exact .inl rfl
  · cases last with
    | idle | connecting => exact .inl rfl
    | streaming => exact .inr rfl

/-- A reporter only moves up. -/
theorem Opened.report {r : Reporter} (h : r.Opened) (s : StreamStatus) :
    (r.report s).1.Opened := by
  obtain ⟨resource, generation, last⟩ := r
  obtain rfl | rfl : last = some .connecting ∨ last = some .streaming := h
  · cases s with
    | idle | connecting => exact .inl rfl
    | streaming => exact .inr rfl
  · cases s <;> exact .inr rfl

theorem Opened.reportAll {r : Reporter} (h : r.Opened) (said : List StreamStatus) :
    (r.reportAll said).1.Opened := by
  induction said generalizing r with
  | nil => exact h
  | cons s rest ih => exact ih (h.report s)

end Reporter

/-- In the turn a task takes the messages that feed `f` holds, and then waits for more at place `p`,
or ends because there is a failure or the end. -/
def Turn.Reads {r : Resource} (turn : Turn r) (p : Nat) (f : Feed r) : Prop :=
  turn.messages = Reading.untilFailure f.pending ∧
  ((turn.phase = .reading (some p) ∧ f.contents = turn.messages.map .ofMessage ∧
      (turn.feed f).contents = []) ∨
    ((∃ outcome, turn.phase = .ended outcome) ∧ ∃ e ∈ f.contents, e.isMessage = false))

/-- Who reads the feed does not matter. -/
theorem StreamTask.reads_goOn {t : StreamTask} {p : Nat} {f : Feed t.resource} (reader : Reader)
    (hphase : t.phase = .reading (some p)) (hcancelled : t.cancelled = false) :
    (t.goOn true (some f)).Reads p { f with reader } := by
  refine t.goOn_elim ?_ ?_ ?_ ?_
  · intro h
    rw [hcancelled] at h
    cases h
  · exact fun _ h => nomatch h
  · intro g _ hg hclosed hall
    obtain rfl := Option.some.inj hg
    refine ⟨rfl, .inl ⟨hphase, ?_, ?_⟩⟩
    · exact Feed.contents_of_messages (f := { f with reader }) hclosed hall
    · exact Feed.contents_drain (f := { f with reader }) hclosed
  · intro g outcome _ hg hending
    obtain rfl := Option.some.inj hg
    exact ⟨rfl, .inr ⟨⟨_, rfl⟩, Feed.stopped_of_ending (f := { f with reader }) hending⟩⟩

namespace Monitor

variable {m : Monitor} {i : Nat} {t : StreamTask} {id : FeedId}
  {given : List (StreamEvent id.resource)}

/-- A task that goes on, and whose slot takes its messages, reads the feed within its reach. -/
theorem reads_turn (hfresh : m.fresh t = true) (haborted : t.aborted = false)
    (hcancelled : t.cancelled = false) (hended : t.hasEnded = false) {p : Nat}
    (hreach : m.reach t = some p) {f : Feed t.resource}
    (hf : (m.feeds.get t.resource)[p]? = some f) : (m.turn t).Reads p f := by
  have hfeed : m.feedAt t.resource (some p) = some f := hf
  rw [turn, hfresh, hreach, hfeed]
  refine StreamTask.turn_elim ?_ ?_ ?_ ?_ ?_
  · intro h
    rw [hended] at h
    cases h
  · intro _ h
    rw [haborted] at h
    cases h
  · intro hspawned _ htarget
    rw [m.reach_of_starts (StreamTask.starts_eq_true_iff.mpr ⟨hspawned, haborted⟩), htarget]
      at hreach
    cases hreach
  · intro h _ _ _
    exact StreamTask.reads_goOn (t := { t with phase := .reading (some p) }) .held rfl hcancelled
  · intro held hheld _
    have hplace : held = some p := (m.reach_of_reading hheld).symm.trans hreach
    exact StreamTask.reads_goOn f.reader (hplace ▸ hheld) hcancelled

/-- A task that opens its stream says so first. -/
theorem said_turn_of_starts (hstarts : t.starts = true) {p : Nat} (hreach : m.reach t = some p) :
    ∃ rest, (m.turn t).said = .connecting :: rest := by
  obtain ⟨hspawned, haborted⟩ := StreamTask.starts_eq_true_iff.mp hstarts
  unfold turn
  refine StreamTask.turn_elim ?_ ?_ ?_ ?_ ?_
  · intro hended
    rw [StreamTask.hasEnded_of_spawned hspawned] at hended
    cases hended
  · intro _ h
    rw [haborted] at h
    cases h
  · intro _ _ htarget
    rw [m.reach_of_starts hstarts, htarget] at hreach
    cases hreach
  · exact fun _ _ _ _ => ⟨_, rfl⟩
  · intro held hheld
    rw [hspawned] at hheld
    cases hheld

/-- Task `t` follows the feed into which `given` was put: it reads the feed, and its slot holds all
but what waits there, or it has come to a failure or to the end, and its slot holds what came
before. -/
structure Follows (m : Monitor) (t : StreamTask) (id : FeedId)
    (given : List (StreamEvent id.resource)) : Prop where
  resource : t.resource = id.resource
  opened : t.reporter.Opened
  slot : ∃ taken : List id.resource.Message,
    m.snapshot id.resource = .after m.generation taken ∧
    ((t.phase = .reading (some id.place) ∧
        ∃ f, m.feed? id = some f ∧ taken.map .ofMessage ++ f.contents = given) ∨
      (t.hasEnded = true ∧ StreamEvent.messages given = taken ∧
        ∃ e ∈ given, e.isMessage = false))

/-- A task that reads the feed, or opens it, follows it after its run. -/
theorem follows_runStream (hm : m.Clientless) (ht : m.tasks[i]? = some t)
    (haborted : t.aborted = false) (hended : t.hasEnded = false)
    (hresource : t.resource = id.resource) (hreach : m.reach t = some id.place)
    (hopened : t.starts = true ∨ t.reporter.Opened) {f : Feed id.resource}
    (hf : m.feed? id = some f) {taken : List id.resource.Message}
    (hslot : m.snapshot id.resource = .after m.generation taken)
    (hgiven : taken.map .ofMessage ++ f.contents = given) :
    ∃ t', (m.runStream i).tasks[i]? = some t' ∧ (m.runStream i).Follows t' id given := by
  obtain ⟨r, p⟩ := id
  dsimp only at *
  subst hresource
  have hgeneration : t.generation = m.generation := (hm.heeds ht haborted).2
  obtain ⟨hcancelled, hfresh⟩ := hm.goesOn ht haborted
  obtain ⟨hmessages, hposition⟩ := reads_turn hfresh haborted hcancelled hended hreach hf
  rw [runStream_eq_turn ht]
  refine ⟨_, getElem?_tasks_progress ht _, rfl, ?_, taken ++ (m.turn t).messages, ?_, ?_⟩
  · show (t.reporter.reportAll (m.turn t).said).1.Opened
    rcases hopened with hstarts | hopened
    · obtain ⟨rest, hsaid⟩ := said_turn_of_starts hstarts hreach
      rw [hsaid]
      exact t.reporter.opened_report_connecting.reportAll rest
    · exact hopened.reportAll _
  · rw [snapshot_progress_self]
    show _ = Snapshot.after m.generation _
    rw [← hgeneration] at hslot ⊢
    exact Slot.value_deliver hslot _
  · rcases hposition with ⟨hphase, hcontents, hempty⟩ | ⟨⟨outcome, hphase⟩, e, he, hstop⟩
    · refine .inl ⟨hphase, (m.turn t).feed f, ?_, ?_⟩
      · show ((m.progressOf (m.reach t) (m.turn t)).feeds.get t.resource)[p]? = _
        have hf : (m.feeds.get t.resource)[p]? = some f := hf
        rw [getElem?_feeds_progressOf_self _ hreach, hf]
        rfl
      · rw [hempty, List.append_nil, List.map_append, ← hcontents, hgiven]
    · refine .inr ⟨?_, ?_, e, ?_, hstop⟩
      · simp [StreamTask.hasEnded, StreamTask.progress, progressOf, hphase]
      · rw [← hgiven, StreamEvent.messages_map_append, Feed.messages_contents, hmessages]
      · rw [← hgiven]
        exact List.mem_append_right _ he

namespace Follows

/-- It depends on the task, its slot and its feed. -/
theorem congr {m' : Monitor} (h : m.Follows t id given)
    (hsnapshot : m'.snapshot id.resource = m.snapshot id.resource)
    (hgeneration : m'.generation = m.generation)
    (hfeed : t.feed? = some id.place → m'.feed? id = m.feed? id) : m'.Follows t id given := by
  obtain ⟨hresource, hopened, taken, hslot, hposition⟩ := h
  refine ⟨hresource, hopened, taken, ?_, ?_⟩
  · rw [hsnapshot, hgeneration, hslot]
  · rcases hposition with ⟨hphase, hrest⟩ | hover
    · refine .inl ⟨hphase, ?_⟩
      rw [hfeed (feed?_eq_some_iff.mpr hphase)]
      exact hrest
    · exact .inr hover

/-- It keeps following the feed whoever is run. -/
theorem runStream (h : m.Follows t id given) (hm : m.Clientless) (ht : m.tasks[i]? = some t)
    (haborted : t.aborted = false) (j : Nat) :
    ∃ t', (m.runStream j).tasks[i]? = some t' ∧ (m.runStream j).Follows t' id given := by
  obtain ⟨hresource, hopened, taken, hslot, hposition⟩ := h
  have hheeds := hm.heeds ht haborted
  by_cases hji : j = i
  · subst hji
    rcases hposition with ⟨hphase, f, hf, hgiven⟩ | hover
    · exact follows_runStream hm ht haborted (StreamTask.hasEnded_of_reading hphase) hresource
        (m.reach_of_reading hphase) (.inr hopened) hf hslot hgiven
    · have hnothing : m.runStream j = m := by simp [Monitor.runStream, ht, hover.1]
      rw [hnothing]
      exact ⟨t, ht, hresource, hopened, taken, hslot, .inr hover⟩
  · have htask : (m.runStream j).tasks[i]? = some t :=
      (m.getElem?_tasks_runStream_of_ne hji).trans ht
    refine ⟨t, htask, congr ⟨hresource, hopened, taken, hslot, hposition⟩ ?_ ?_ ?_⟩
    · rw [← hresource]
      exact snapshot_runStream_of_ne hm.reachable.exact hm.solo hji ht hheeds
    · exact m.runStream_elim j (fun _ => rfl) fun _ _ => rfl
    · intro hfeed
      refine m.runStream_elim j (fun _ => rfl) fun u hu => ?_
      refine getElem?_feeds_progressOf_of_ne (m.turn u) fun hr => ?_
      exact hm.reachable.wired.reach_ne hji hu ht (hr.symm.trans hresource.symm) hfeed

/-- What is put into the feed waits there. -/
theorem enter (h : m.Follows t id given) {f : Feed id.resource} (hf : m.feed? id = some f)
    (hclosed : f.closed = false)
    (hheld : t.feed? = some id.place → f.reader = .held) (e : StreamEvent id.resource) :
    (m.modifyFeed id.resource id.place (·.enter e)).Follows t id (given ++ [e]) := by
  obtain ⟨hresource, hopened, taken, hslot, hposition⟩ := h
  refine ⟨hresource, hopened, taken, hslot, ?_⟩
  rcases hposition with ⟨hphase, f', hf', hgiven⟩ | ⟨hended, hmessages, hstop⟩
  · obtain rfl := Option.some.inj (hf.symm.trans hf')
    have hreader : f.reader ≠ .released := by
      rw [hheld (feed?_eq_some_iff.mpr hphase)]
      decide
    refine .inl ⟨hphase, f.enter e, ?_, ?_⟩
    · have hf : (m.feeds.get id.resource)[id.place]? = some f := hf
      simp [feed?, modifyFeed, hf]
    · rw [Feed.contents_enter hclosed hreader, ← List.append_assoc, hgiven]
  · refine .inr ⟨hended, ?_, ?_⟩
    · rw [StreamEvent.messages_append_of_stopped hstop, hmessages]
    · obtain ⟨x, hx, hxstop⟩ := hstop
      exact ⟨x, List.mem_append_left _ hx, hxstop⟩

/-- Once nothing waits for the task, its slot holds everything that counts. -/
theorem snapshot_eq (h : m.Follows t id given) (ht : m.tasks[i]? = some t)
    (hready : m.isReady (.stream i) = false) :
    m.snapshot id.resource = .after m.generation (StreamEvent.messages given) := by
  obtain ⟨hresource, -, taken, hslot, hposition⟩ := h
  rw [hslot]
  rcases hposition with ⟨hphase, f, hf, hgiven⟩ | ⟨-, hmessages, -⟩
  · have hnews : m.feedHasNews t = false := by
      simp only [isReady, ht, Option.any_some, streamReady, StreamTask.hasEnded_of_reading hphase,
        Bool.not_false, Bool.true_and, Bool.or_eq_false_iff] at hready
      exact hready.2
    have hquiet : f.hasNews = false := by
      have hplace : t.feed? = some id.place := feed?_eq_some_iff.mpr hphase
      have hf : (m.feeds.get id.resource)[id.place]? = some f := hf
      rw [feedHasNews_eq, hplace, hresource] at hnews
      simpa [news, hf] using hnews
    rw [← hgiven, Feed.contents_of_hasNews_eq_false hquiet, StreamEvent.messages_map_append]
    simp [StreamEvent.messages]
  · rw [hmessages]

/-- The status shows that the stream was opened, and whether a message has come. -/
theorem streams_eq (h : m.Follows t id given) (hm : m.Clientless) (ht : m.tasks[i]? = some t)
    (haborted : t.aborted = false) :
    m.status.streams.get? id.resource =
      some (if (m.snapshot id.resource).sequence = 0 then .connecting else .streaming) := by
  have hshown := (hm.reachable.exact.shown i t ht (hm.heeds ht haborted)).shown
  rw [h.resource] at hshown
  have hlisted := hm.agreed.listed id.resource
  have harrived := hm.agreed.shown hm.solo id.resource
  rcases h.opened with hlast | hlast
  · rw [hlast] at hshown
    rw [hshown] at harrived ⊢
    have hnone : (m.snapshot id.resource).sequence = 0 := by
      by_contra hsome
      cases harrived (Nat.pos_of_ne_zero hsome)
    rw [if_pos hnone]
    rfl
  · rw [hlast] at hshown
    have hsome := hlisted hshown
    rw [hshown, if_neg (Nat.ne_of_gt hsome)]
    rfl

end Follows

end Monitor

end BrokerMonitor
