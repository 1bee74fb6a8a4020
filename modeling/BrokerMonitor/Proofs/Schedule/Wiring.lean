import BrokerMonitor.Proofs.Generation.Lockstep
/-!
# Who holds which feed

A task that reads holds its feed, which is marked as held, and no two tasks hold the same one. A
task that starts opens a feed on offer, which nobody holds. So the feed within the reach of one task
is out of the reach of every other task that reads (`Wired.reach_ne`).
-/

namespace BrokerMonitor

namespace Feeds

variable {r : Resource}

theorem getElem?_alter (fs : Feeds r) (place : Option Nat) (f : Feed r → Feed r) (q : Nat) :
    (fs.alter place f)[q]? = if place = some q then (fs[q]?).map f else fs[q]? := by
  cases place with
  | none => simp
  | some p =>
      by_cases h : p = q
      · subst h
        simp [alter]
      · simp [alter, h]

/-- The feed on offer is on offer. -/
theorem isOffered_of_offered? {fs : Feeds r} {host : String} {p : Nat}
    (h : fs.offered? host = some p) : ∃ f, fs[p]? = some f ∧ f.isOffered host = true := by
  obtain ⟨hlt, hoffered, -⟩ := List.findIdx?_eq_some_iff_getElem.mp h
  exact ⟨fs[p], List.getElem?_eq_getElem hlt, hoffered⟩

end Feeds

namespace Monitor

variable {m m' : Monitor} {i j : Nat} {t u : StreamTask}

/-- Who reads the feed at a place, if there is one. -/
def reader? (m : Monitor) (r : Resource) (place : Nat) : Option Reader :=
  ((m.feeds.get r)[place]?).map (·.reader)

/-- What a task reads is marked as held, and nobody else reads it. -/
structure Wired (m : Monitor) : Prop where
  held : ∀ (i : Nat) (t : StreamTask) (p : Nat), m.tasks[i]? = some t → t.feed? = some p →
    m.reader? t.resource p = some .held
  apart : ∀ (i j : Nat) (t u : StreamTask) (p : Nat), m.tasks[i]? = some t →
    m.tasks[j]? = some u → t.resource = u.resource → t.feed? = some p → u.feed? = some p → i = j

theorem feed?_eq_some_iff {p : Nat} : t.feed? = some p ↔ t.phase = .reading (some p) := by
  unfold StreamTask.feed?
  cases t.phase <;> simp

namespace Wired

/-- A task reaches for a feed on offer, or for the one that it holds. -/
theorem reach_cases (h : m.Wired) (ht : m.tasks[i]? = some t) {p : Nat}
    (hp : m.reach t = some p) :
    (t.starts = true ∧ m.reader? t.resource p = some .offered) ∨
      (t.starts = false ∧ t.feed? = some p ∧ m.reader? t.resource p = some .held) := by
  unfold reach StreamTask.reach at hp
  split at hp
  · next hstarts =>
      obtain ⟨handle, -, hoffered⟩ := Option.bind_eq_some_iff.mp hp
      obtain ⟨f, hf, hfeed⟩ := Feeds.isOffered_of_offered? hoffered
      have hreader : f.reader = .offered := by
        simp only [Feed.isOffered, Bool.and_eq_true, beq_iff_eq] at hfeed
        exact hfeed.1
      exact .inl ⟨hstarts, by simp [reader?, hf, hreader]⟩
  · next hstarts => exact .inr ⟨by simpa using hstarts, hp, h.held i t p ht hp⟩

/-- What a task holds is out of the reach of the others. -/
theorem reach_ne (h : m.Wired) (hij : i ≠ j) (ht : m.tasks[i]? = some t)
    (hu : m.tasks[j]? = some u) (hr : t.resource = u.resource) {q : Nat} (hq : u.feed? = some q) :
    m.reach t ≠ some q := by
  intro hreach
  have hheld := h.held j u q hu hq
  rcases h.reach_cases ht hreach with ⟨-, hoffered⟩ | ⟨-, hfeed, -⟩
  · rw [hr, hheld] at hoffered
    cases hoffered
  · exact hij (h.apart i j t u q ht hu hr hfeed hq)

end Wired

/-! ### Feeds after a turn -/

section Feeds

variable (turn : Turn t.resource)

/-- A turn leaves alone whatever is out of reach. -/
theorem getElem?_feeds_progressOf_of_ne {r : Resource} {q : Nat}
    (h : r = t.resource → m.reach t ≠ some q) :
    ((m.progressOf (m.reach t) turn).feeds.get r)[q]? = (m.feeds.get r)[q]? := by
  by_cases hr : r = t.resource
  · subst hr
    simp [progressOf, Feeds.getElem?_alter, h rfl]
  · simp [progressOf, EachResource.get_modify_of_ne _ _ hr]

theorem getElem?_feeds_progressOf_self {q : Nat} (h : m.reach t = some q) :
    ((m.progressOf (m.reach t) turn).feeds.get t.resource)[q]? =
      ((m.feeds.get t.resource)[q]?).map turn.feed := by
  simp [progressOf, Feeds.getElem?_alter, h]

end Feeds

/-- A task that reads after its turn holds the feed that was within its reach: it has just opened
it, or it held it before. -/
theorem reading_of_turn {p : Nat} (h : (m.turn t).phase = .reading (some p)) :
    m.reach t = some p ∧ ((∀ f, ((m.turn t).feed f).reader = .held) ∨
      t.feed? = some p ∧ ∀ f, ((m.turn t).feed f).reader = f.reader) := by
  -- Going on neither changes the place nor who reads there.
  have hgoOn : ∀ (u : StreamTask) (fresh : Bool) (feed : Option (Feed u.resource)),
      (u.goOn fresh feed).phase = .reading (some p) → u.phase = .reading (some p) ∧
        ∀ f, ((u.goOn fresh feed).feed f).reader = f.reader := by
    intro u fresh feed
    refine u.goOn_elim ?_ ?_ ?_ ?_
    · exact fun _ h => nomatch h
    · exact fun _ _ h => ⟨h, fun _ => rfl⟩
    · exact fun f _ _ _ _ h => ⟨h, fun _ => rfl⟩
    · exact fun f _ _ _ _ h => nomatch h
  revert h
  unfold turn
  refine StreamTask.turn_elim ?_ ?_ ?_ ?_ ?_
  · intro hended h
    rw [StreamTask.hasEnded_of_reading h] at hended
    cases hended
  · exact fun _ _ h => nomatch h
  · exact fun _ _ _ h => nomatch h
  · intro handle _ _ _ h
    obtain ⟨hphase, hreader⟩ := hgoOn { t with phase := .reading (m.reach t) } _ _ h
    exact ⟨by simpa using hphase, .inl fun f => hreader f.hold⟩
  · intro held hheld _ h
    obtain ⟨hphase, hreader⟩ := hgoOn t _ _ h
    exact ⟨m.reach_of_reading hphase, .inr ⟨feed?_eq_some_iff.mpr hphase, hreader⟩⟩

namespace Wired

theorem initial (rate : Option UInt32) : (Monitor.initial rate).Wired where
  held _ _ _ ht := nomatch ht
  apart _ _ _ _ _ ht := nomatch ht

/-- The tasks hold what they held, and it is still marked as held. -/
theorem of_tasks (h : m.Wired)
    (htasks : ∀ (i : Nat) (u : StreamTask) (p : Nat), m'.tasks[i]? = some u → u.feed? = some p →
      ∃ t, m.tasks[i]? = some t ∧ t.resource = u.resource ∧ t.feed? = some p)
    (hfeeds : ∀ r p, m.reader? r p = some .held → m'.reader? r p = some .held) : m'.Wired := by
  refine ⟨?_, ?_⟩
  · intro i u p hu hp
    obtain ⟨t, ht, hr, hfeed⟩ := htasks i u p hu hp
    exact hfeeds _ p (hr ▸ h.held i t p ht hfeed)
  · intro i j u v p hu hv hr hp hq
    obtain ⟨t, ht, hrt, hfeed⟩ := htasks i u p hu hp
    obtain ⟨w, hw, hrw, hfeed'⟩ := htasks j v p hv hq
    exact h.apart i j t w p ht hw (hrt.trans (hr.trans hrw.symm)) hfeed hfeed'

/-- What is done to tasks from outside does not matter. -/
theorem of_map_core (h : m.Wired)
    (htasks : m'.tasks.map StreamTask.core = m.tasks.map StreamTask.core)
    (hfeeds : m'.feeds = m.feeds) : m'.Wired := by
  refine h.of_tasks ?_ fun r p hp => by rwa [reader?, hfeeds]
  intro i u p hu hp
  obtain ⟨t, ht, hcore⟩ := StreamTask.exists_getElem?_of_map htasks hu
  have hresource : t.core.resource = u.core.resource := congrArg _ hcore
  have hfeed : t.core.feed? = u.core.feed? := congrArg _ hcore
  exact ⟨t, ht, hresource, hfeed.trans hp⟩

/-- New tasks hold nothing yet. -/
theorem append (h : m.Wired) (new : List StreamTask) (hnew : ∀ u ∈ new, u.phase = .spawned)
    (htasks : m'.tasks = m.tasks ++ new) (hfeeds : m'.feeds = m.feeds) : m'.Wired := by
  refine h.of_tasks ?_ fun r p hp => by rwa [reader?, hfeeds]
  intro i u p hu hp
  rw [htasks] at hu
  rcases Nat.lt_or_ge i m.tasks.length with hlt | hge
  · exact ⟨u, List.getElem?_append_left hlt ▸ hu, rfl, hp⟩
  · rw [List.getElem?_append_right hge] at hu
    rw [feed?_eq_some_iff, hnew u (List.mem_of_getElem? hu)] at hp
    cases hp

/-- What the broker does to feeds does not take them from their readers. -/
theorem modify_feeds (h : m.Wired) (r : Resource) {f : Feeds r → Feeds r}
    (hf : ∀ (fs : Feeds r) (p : Nat), (fs[p]?).map (·.reader) = some .held →
      ((f fs)[p]?).map (·.reader) = some .held) :
    ({ m with feeds := m.feeds.modify r f } : Monitor).Wired := by
  refine h.of_tasks (fun i u p hu hp => ⟨u, hu, rfl, hp⟩) ?_
  intro r' p hp
  by_cases hr : r' = r
  · subst hr
    simpa [reader?] using hf _ p hp
  · simpa [reader?, EachResource.get_modify_of_ne _ _ hr] using hp

/-- Nor does what it does to one feed. -/
theorem modify_feed (h : m.Wired) (id : FeedId) {g : Feed id.resource → Feed id.resource}
    (hg : ∀ f, (g f).reader = f.reader) :
    (m.modifyFeed id.resource id.place g).Wired := by
  refine h.modify_feeds id.resource fun fs p hp => ?_
  obtain ⟨f, hf, hreader⟩ := Option.map_eq_some_iff.mp hp
  rw [List.getElem?_modify, hf]
  by_cases hqp : id.place = p
  · simpa [hqp] using (hg f).trans hreader
  · simpa [hqp] using hreader

theorem offer (h : m.Wired) (r : Resource) (host : String) : (m.offer r host).1.Wired := by
  refine h.modify_feeds r fun fs p hp => ?_
  obtain ⟨f, hf, hreader⟩ := Option.map_eq_some_iff.mp hp
  obtain ⟨hlt, -⟩ := List.getElem?_eq_some_iff.mp hf
  have hkept : f.isOffered host = false := by simp [Feed.isOffered, hreader]
  rw [Feeds.offer, List.getElem?_append_left (by simpa using hlt), List.getElem?_map, hf]
  simp [hkept, hreader]

theorem runStream (h : m.Wired) (i : Nat) : (m.runStream i).Wired := by
  refine m.runStream_elim i (fun _ => h) fun t ht => ?_
  let p := m.progressOf (m.reach t) (m.turn t)
  -- Another task holds a feed that was out of reach.
  have hother : ∀ {j : Nat} {u : StreamTask} {q : Nat}, j ≠ i → m.tasks[j]? = some u →
      u.feed? = some q → u.resource = t.resource → m.reach t ≠ some q :=
    fun hj hu hq hr => h.reach_ne (Ne.symm hj) ht hu hr.symm hq
  refine ⟨?_, ?_⟩
  · intro j u q hu hq
    rcases cases_of_getElem?_progress ht hu with ⟨rfl, rfl⟩ | ⟨hj, hu⟩
    · have hphase : (m.turn t).phase = .reading (some q) := feed?_eq_some_iff.mp hq
      change ((p.feeds.get t.resource)[q]?).map (·.reader) = some .held
      obtain ⟨hplace, hreader⟩ := reading_of_turn hphase
      rw [getElem?_feeds_progressOf_self _ hplace]
      rcases hreader with hheld | ⟨hfeed, hkept⟩
      · rcases h.reach_cases ht hplace with ⟨-, hoffered⟩ | ⟨-, -, hreader⟩
        · obtain ⟨f, hf, -⟩ := Option.map_eq_some_iff.mp hoffered
          simpa [hf] using hheld f
        · obtain ⟨f, hf, -⟩ := Option.map_eq_some_iff.mp hreader
          simpa [hf] using hheld f
      · obtain ⟨f, hf, hreader⟩ := Option.map_eq_some_iff.mp (h.held j t q ht hfeed)
        rw [hf]
        exact congrArg some ((hkept f).trans hreader)
    · change ((p.feeds.get u.resource)[q]?).map (·.reader) = some .held
      rw [getElem?_feeds_progressOf_of_ne _ (hother hj hu hq)]
      exact h.held j u q hu hq
  · -- The only new holding is of the feed within reach, which no other task holds.
    have hnew : ∀ {u : StreamTask} {q : Nat}, u = t.progress p.said p.messages.length p.phase →
        u.feed? = some q → m.reach t = some q := by
      rintro u q rfl hq
      have hphase : (m.turn t).phase = .reading (some q) := feed?_eq_some_iff.mp hq
      exact (reading_of_turn hphase).1
    intro j k u v q hu hv hr hq hq'
    rcases cases_of_getElem?_progress ht hu with ⟨rfl, hu'⟩ | ⟨hj, hold⟩
    · rcases cases_of_getElem?_progress ht hv with ⟨rfl, -⟩ | ⟨hk, hold'⟩
      · rfl
      · have hrv : v.resource = t.resource := by rw [← hr, hu', StreamTask.resource_progress]
        exact absurd (hnew hu' hq) (hother hk hold' hq' hrv)
    · rcases cases_of_getElem?_progress ht hv with ⟨rfl, hv'⟩ | ⟨-, hold'⟩
      · have hru : u.resource = t.resource := by rw [hr, hv', StreamTask.resource_progress]
        exact absurd (hnew hv' hq') (hother hj hold hq hru)
      · exact h.apart j k u v q hold hold' hr hq hq'

theorem step (h : m.Wired) (step : m.Step m') : m'.Wired := by
  cases step with
  | refuse | meetRefusal | readRequests | observe | unobserve | readHeard =>
      exact ⟨h.held, h.apart⟩
  | offer r host => exact h.offer r host
  | send id item =>
      have h' := h.modify_feed id (fun f => Feed.reader_send f item)
      exact ⟨h'.held, h'.apart⟩
  | close id =>
      have h' := h.modify_feed id (fun f : Feed id.resource => (rfl : f.close.reader = f.reader))
      exact ⟨h'.held, h'.apart⟩
  | @attach g handle =>
      have h' : m.abandonTasks.Wired := h.of_map_core m.map_core_abandonTasks rfl
      refine h'.append (Resource.all.map (m.taskFor g handle)) ?_ rfl rfl
      intro u hu
      obtain ⟨r, -, rfl⟩ := List.mem_map.mp hu
      cases handle <;> rfl
  | drop =>
      have h' : m.abandonTasks.Wired := h.of_map_core m.map_core_abandonTasks rfl
      exact ⟨h'.held, h'.apart⟩
  | startOver r k => exact h.append [m.clientTask r k] (by simp; rfl) rfl rfl
  | startDetached r g => exact h.append [.detached r g .log] (by simp; rfl) rfl rfl
  | readLog ht => exact h.of_map_core (StreamTask.map_set ht rfl) rfl
  | cancel i => exact h.of_map_core (StreamTask.map_modify m.tasks i fun _ => rfl) rfl
  | run j =>
      cases j with
      | stream i =>
          obtain ⟨queue, hrun⟩ := m.exists_run_stream_eq i
          rw [hrun]
          exact ⟨(h.runStream i).held, (h.runStream i).apart⟩
      | observer k =>
          obtain ⟨board, observers, queue, hrun, -⟩ := m.exists_run_observer_eq k
          rw [hrun]
          exact ⟨h.held, h.apart⟩

theorem leads (h : m.Wired) (hm : m.Leads m') : m'.Wired := by
  induction hm with
  | refl => exact h
  | tail _ step ih => exact ih.step step

end Wired

end Monitor

end BrokerMonitor
