import BrokerMonitor.Command.Watch
import BrokerMonitor.Proofs.Course.StatusReport
/-!
# News

A source has news for whoever has seen a state if something was announced since, and whatever has
changed in the meantime was announced. A watch remembers of each source what was announced when it
last took it up. So along the states of a course it takes up, in each state, the sources with news
since the state before, each once and with what holds there (`follow_eq_newsAlong`).
-/

namespace BrokerMonitor

namespace Monitor

variable {m m' : Monitor}

theorem version_status_le (hm : m.Reachable) (hleads : m.Leads m') :
    m.board.status.version ≤ m'.board.status.version := by
  obtain ⟨events, htracks⟩ := exists_tracks_of_leads hm hleads
  rw [htracks.board, StatusBoard.version_afterAll]
  exact Nat.le_add_right ..

theorem version_slot_le (hleads : m.Leads m') (r : Resource) :
    (m.store.get r).version ≤ (m'.store.get r).version := by
  obtain ⟨ws, hws⟩ := exists_writeAll_of_leads hleads r
  rw [hws, Slot.version_writeAll]
  exact Nat.le_add_right ..

theorem slot_of_version_eq {r : Resource} (hleads : m.Leads m')
    (hversion : (m'.store.get r).version = (m.store.get r).version) :
    m'.store.get r = m.store.get r := by
  obtain ⟨ws, hws⟩ := exists_writeAll_of_leads hleads r
  rw [hws] at hversion ⊢
  exact Slot.writeAll_of_version_eq hversion.symm

end Monitor

namespace Source

/-- How often a source has announced anything. -/
def announced (m : Monitor) : Source → Nat
  | .status => m.board.status.version
  | .listing r => (m.store.get r).version

/-- What a source tells. -/
def update (m : Monitor) : Source → Update
  | .status => .status m.status
  | .listing r => .listing r (m.snapshot r).records

/-- The sources with news for whoever has seen the state before. -/
def withNews (before now : Monitor) : List Source :=
  [.status, .listing .channels, .listing .adapters].filter fun source =>
    source.announced before != source.announced now

theorem mem_withNews {before now : Monitor} {source : Source} :
    source ∈ withNews before now ↔ source.announced before ≠ source.announced now := by
  rw [withNews, List.mem_filter, bne_iff_ne]
  exact and_iff_right (mem_all source)

theorem decide_mem_withNews (before now : Monitor) (source : Source) :
    decide (source ∈ withNews before now) =
      (source.announced before != source.announced now) := by
  rw [Bool.eq_iff_iff, bne_iff_ne, decide_eq_true_eq, mem_withNews]

/-- A change of the status is news, and so is every change of a slot, also to the same records. -/
theorem mem_withNews_of_ne {before now : Monitor} (hbefore : before.Reachable)
    (hleads : before.Leads now) :
    (now.status ≠ before.status → .status ∈ withNews before now) ∧
      ∀ r, now.snapshot r ≠ before.snapshot r → .listing r ∈ withNews before now := by
  refine ⟨fun hne => mem_withNews.mpr fun hsame => hne ?_,
    fun r hne => mem_withNews.mpr fun hsame => hne ?_⟩
  · exact Monitor.status_of_version_eq hbefore hleads hsame.symm
  · exact congrArg Cell.value (Monitor.slot_of_version_eq hleads hsame.symm)

end Source

open Source (withNews)

/-- The news of some states, for whoever has seen the state before: in each of them every source
with news tells once what holds there. -/
def newsAlong (before : Monitor) : List (Timed Monitor) → List (Timed Update)
  | [] => []
  | now :: later =>
    (withNews before now.value).map (fun source => ⟨now.time, source.update now.value⟩) ++
      newsAlong now.value later

namespace Watch

variable {w : Watch}

/-- What a watch has seen of a source. -/
def seen (w : Watch) : Source → Nat
  | .status => w.status.seen
  | .listing r => (w.listings.get r).seen

/-- A watch that has seen all of a source. -/
def see (w : Watch) (m : Monitor) : Source → Watch
  | .status => { w with status := m.board.status.subscribe }
  | .listing r => { w with listings := w.listings.set r (m.store.get r).subscribe }

theorem seen_start (m : Monitor) (source : Source) :
    (start m).1.seen source = source.announced m := by
  cases source with
  | status => rfl
  | listing r => simp [start, seen, Source.announced, Cell.subscribe]

theorem seen_see (w : Watch) (m : Monitor) (source other : Source) :
    (w.see m source).seen other = if other = source then source.announced m else w.seen other := by
  cases source with
  | status => cases other <;> rfl
  | listing r =>
      cases other with
      | status => rfl
      | listing q =>
          by_cases hq : q = r
          · subst hq
            simp [see, seen, Source.announced, Cell.subscribe]
          · simp [see, seen, hq, EachResource.get_set_of_ne _ _ hq]

/-- There are news where something was announced that the watch has not seen. -/
theorem isReady_eq (w : Watch) (m : Monitor) (source : Source) :
    w.isReady m source = (w.seen source != source.announced m) := by
  cases source <;> rfl

/-- Where there are news, the watch takes up what the source tells, and has seen all of it. -/
theorem handle_eq (w : Watch) (m : Monitor) (source : Source) :
    w.handle m source =
      if w.isReady m source then (w.see m source, some (source.update m)) else (w, none) := by
  cases source with
  | status =>
      unfold handle isReady Cell.poll
      cases m.board.status.seenBy w.status <;> rfl
  | listing r =>
      by_cases hseen : (m.store.get r).seenBy (w.listings.get r) = true <;>
        simp [handle, isReady, Cell.poll, hseen, see, Source.update, Monitor.snapshot]

/-- Either way it has seen all of the source, and of every other one what it had seen. -/
theorem seen_handle (w : Watch) (m : Monitor) (source other : Source) :
    (w.handle m source).1.seen other =
      if other = source then source.announced m else w.seen other := by
  rw [handle_eq]
  split
  · exact w.seen_see m source other
  · next hready =>
      have hseen : w.seen source = source.announced m := by simpa [isReady_eq] using hready
      by_cases hother : other = source
      · rw [if_pos hother, hother, hseen]
      · rw [if_neg hother]

/-- A source that is taken up has no news left, and no other one gets any by that. -/
theorem isReady_handle (w : Watch) (m : Monitor) (source other : Source) :
    (w.handle m source).1.isReady m other = (other != source && w.isReady m other) := by
  rw [isReady_eq, isReady_eq, seen_handle]
  by_cases hsame : other = source <;> simp [hsame]

theorem seen_handleAll (w : Watch) (m : Monitor) (sources : List Source) (other : Source) :
    (w.handleAll m sources).1.seen other =
      if other ∈ sources then other.announced m else w.seen other := by
  induction sources generalizing w with
  | nil => rfl
  | cons source rest ih =>
      simp only [handleAll, ih, seen_handle, List.mem_cons]
      by_cases hrest : other ∈ rest
      · simp [hrest]
      · by_cases hsame : other = source <;> simp [hrest, hsame]

/-- A watch that takes up some sources gets an update from each one with news. -/
theorem snd_handleAll (w : Watch) (m : Monitor) {sources : List Source} (h : sources.Nodup) :
    (w.handleAll m sources).2 = (sources.filter (w.isReady m)).map (·.update m) := by
  induction sources generalizing w with
  | nil => rfl
  | cons source rest ih =>
      obtain ⟨hsource, hrest⟩ := List.nodup_cons.mp h
      -- The first source has no part in what is ready among the others.
      have hsame : rest.filter ((w.handle m source).1.isReady m) = rest.filter (w.isReady m) := by
        refine List.filter_congr fun other hother => ?_
        have hne : other ≠ source := fun heq => hsource (heq ▸ hother)
        simp [isReady_handle, hne]
      simp only [handleAll, ih _ hrest, hsame, List.filter_cons]
      rw [handle_eq]
      cases w.isReady m source <;> rfl

/-- A watch that has seen all of a state, and now takes up all sources in whatever order, gets one
update from each of those with news since, and has seen all of the state now. -/
theorem handleAll_of_seen {before : Monitor} (h : ∀ source, w.seen source = source.announced before)
    (now : Monitor) {sources : List Source} (hnodup : sources.Nodup)
    (hall : ∀ source, source ∈ sources) :
    (w.handleAll now sources).2 =
        (sources.filter (· ∈ withNews before now)).map (·.update now) ∧
      ∀ source, (w.handleAll now sources).1.seen source = source.announced now := by
  constructor
  · have hready : sources.filter (w.isReady now) =
        sources.filter (· ∈ withNews before now) := by
      refine List.filter_congr fun source _ => ?_
      rw [isReady_eq, h, Source.decide_mem_withNews]
    rw [snd_handleAll w now hnodup, hready]
  · intro source
    rw [seen_handleAll, if_pos (hall source)]

/-- A watch that has seen all of a state follows the news since. -/
theorem follow_eq_newsAlong {before : Monitor}
    (h : ∀ source, w.seen source = source.announced before) (states : List (Timed Monitor)) :
    w.follow states = newsAlong before states := by
  induction states generalizing w before with
  | nil => rfl
  | cons now later ih =>
      obtain ⟨hupdates, hseen⟩ :=
        handleAll_of_seen h now.value (show Source.all.Nodup by decide) Source.mem_all
      have hsources : Source.all.filter (· ∈ withNews before now.value) =
          withNews before now.value :=
        List.filter_congr fun source _ => Source.decide_mem_withNews before now.value source
      simp only [newsAlong, follow, hupdates, ih hseen, hsources, List.map_map]
      rfl

/-- A watch that starts in a state has no news of the state itself. -/
theorem follow_start (m : Monitor) (states : List (Timed Monitor)) :
    (start m).1.follow (⟨0, m⟩ :: states) = newsAlong m states := by
  rw [follow_eq_newsAlong (seen_start m), newsAlong]
  simp [withNews]

end Watch

end BrokerMonitor
