import BrokerMonitor.Proofs.Schedule.Queue
/-!
# Runs commute

Without clients two stream tasks that follow the same resource are never both at work: the tasks of
earlier generations were aborted, and an aborted task only lets go of what it holds. So the turn of
a task does not depend on who has run before it, and two runs in either order come to the same, but
for the order of the requests and of what is told. `Agree` relates monitors that are the same up to
that.
-/

namespace BrokerMonitor

namespace Feeds

variable {r : Resource}

/-- Changes at different places do not get in each other's way. -/
theorem alter_comm (fs : Feeds r) {a b : Option Nat} (hab : ∀ p, a = some p → b ≠ some p)
    (f g : Feed r → Feed r) : (fs.alter a f).alter b g = (fs.alter b g).alter a f := by
  refine List.ext_getElem? fun q => ?_
  simp only [getElem?_alter]
  by_cases ha : a = some q
  · simp [ha, hab q ha]
  · by_cases hb : b = some q <;> simp [ha, hb]

/-- A feed that was not on offer and is not on offer after a change is never the one on offer. -/
theorem offered?_alter (fs : Feeds r) {place : Option Nat} {f : Feed r → Feed r} (host : String)
    (h : ∀ p g, place = some p → fs[p]? = some g → (f g).isOffered host = g.isOffered host) :
    (fs.alter place f).offered? host = fs.offered? host := by
  have hmap : (fs.alter place f).map (·.isOffered host) = fs.map (·.isOffered host) := by
    refine List.ext_getElem? fun q => ?_
    rw [List.getElem?_map, List.getElem?_map, getElem?_alter]
    split
    · next hq =>
        cases hg : fs[q]? with
        | none => rfl
        | some g => simpa using h q g hq hg
    · rfl
  have hfind := congrArg (List.findIdx? id) hmap
  rw [List.findIdx?_map, List.findIdx?_map] at hfind
  exact hfind

end Feeds

namespace EachResource

variable {F : Resource → Type}

theorem modify_comm (p : EachResource F) {r s : Resource} (h : r ≠ s) (f : F r → F r)
    (g : F s → F s) : (p.modify r f).modify s g = (p.modify s g).modify r f := by
  cases r <;> cases s <;> first | rfl | exact absurd rfl h

/-- Changes of feeds at different places do not get in each other's way. -/
theorem modify_alter_comm (feeds : EachResource Feeds) {r s : Resource} {a b : Option Nat}
    (hab : r = s → ∀ q, a = some q → b ≠ some q) (f : Feed r → Feed r) (g : Feed s → Feed s) :
    (feeds.modify r (·.alter a f)).modify s (·.alter b g) =
      (feeds.modify s (·.alter b g)).modify r (·.alter a f) := by
  by_cases hrs : r = s
  · subst hrs
    simp only [modify_modify, Function.comp_def, Feeds.alter_comm _ (hab rfl)]
  · exact feeds.modify_comm hrs _ _

/-- Nor do messages at different slots. -/
theorem modify_deliver_comm (store : Store) {r s : Resource} {first : List r.Message}
    {later : List s.Message} (h : r = s → first = [] ∨ later = []) (g k : Generation) :
    (store.modify r (Slot.deliver · g first)).modify s (Slot.deliver · k later) =
      (store.modify s (Slot.deliver · k later)).modify r (Slot.deliver · g first) := by
  by_cases hrs : r = s
  · subst hrs
    rw [modify_modify, modify_modify]
    congr 1
    funext slot
    rcases h rfl with rfl | rfl <;> rfl
  · exact store.modify_comm hrs _ _

end EachResource

namespace Monitor

variable {m m' n : Monitor} {i j : Nat} {t u : StreamTask}

/-! ### Turns do not depend on each other -/

/-- The turn of a task depends on what is within its reach. -/
theorem turn_congr (hfresh : m'.fresh u = m.fresh u) (hreach : m'.reach u = m.reach u)
    (hfeed : m'.feedAt u.resource (m.reach u) = m.feedAt u.resource (m.reach u)) :
    m'.turn u = m.turn u := by
  unfold turn
  rw [hreach, hfresh, hfeed]

/-- Slots keep their generation. -/
theorem generation_snapshot_progress (p : Progress t.resource) (r : Resource) :
    ((m.progress i t p).snapshot r).generation = (m.snapshot r).generation := by
  by_cases hr : r = t.resource
  · subst hr
    simp [snapshot, progress]
  · simp [snapshot, progress, EachResource.get_set_of_ne _ _ hr]

/-- So a run does not change whose messages they take. -/
theorem fresh_progress (p : Progress t.resource) (u : StreamTask) :
    (m.progress i t p).fresh u = m.fresh u := by
  unfold fresh
  rw [generation_snapshot_progress]

/-- A task that was aborted takes no messages, and it tells nobody anything. -/
theorem nothing_of_aborted (m : Monitor) (h : t.aborted = true) :
    (m.turn t).messages = [] ∧ (m.turn t).said = [] := by
  cases hended : t.hasEnded with
  | true => rw [turn_of_hasEnded m hended]; exact ⟨rfl, rfl⟩
  | false => rw [turn_of_aborted m hended h]; exact ⟨rfl, rfl⟩

/-- It puts no feed on offer. -/
theorem isOffered_turn_of_aborted (m : Monitor) (h : t.aborted = true) {f : Feed t.resource}
    (hf : f.reader = .held) (host : String) :
    ((m.turn t).feed f).isOffered host = f.isOffered host := by
  cases hended : t.hasEnded with
  | true => rw [turn_of_hasEnded m hended]; rfl
  | false =>
      rw [turn_of_aborted m hended h, Feed.isOffered, Feed.isOffered, hf]
      rfl

/-- So it makes no difference to the tasks that start. -/
theorem offered?_progressOf (hm : m.Wired) (ht : m.tasks[i]? = some t) {r : Resource}
    (h : r = t.resource → t.aborted = true) (host : String) :
    ((m.progressOf (m.reach t) (m.turn t)).feeds.get r).offered? host =
      (m.feeds.get r).offered? host := by
  by_cases hr : r = t.resource
  · subst hr
    have haborted := h rfl
    simp only [progressOf, EachResource.get_modify_self]
    refine Feeds.offered?_alter _ host fun q f hq hf => ?_
    rw [reach_of_aborted m haborted] at hq
    have hheld := hm.held i t q ht hq
    rw [reader?, hf] at hheld
    exact isOffered_turn_of_aborted m haborted (Option.some.inj hheld) host
  · simp [progressOf, EachResource.get_modify_of_ne _ _ hr]

/-- Without clients, of two tasks that follow the same resource one was aborted. -/
theorem aborted_or_aborted (hm : m.Reachable) (hsolo : m.Solo) (hij : i ≠ j)
    (ht : m.tasks[i]? = some t) (hu : m.tasks[j]? = some u) (hr : t.resource = u.resource) :
    t.aborted = true ∨ u.aborted = true := by
  have hheeds : ∀ {k : Nat} {v : StreamTask}, m.tasks[k]? = some v → v.aborted = false →
      m.Heeds v := by
    intro k v hv haborted
    have haudience := hsolo v (List.mem_of_getElem? hv)
    exact ⟨haudience, (hm.retired.own k v hv haudience haborted).2⟩
  by_contra hnone
  rw [not_or, Bool.not_eq_true, Bool.not_eq_true] at hnone
  exact hij (hm.exact.single i j t u ht hu (hheeds ht hnone.1) (hheeds hu hnone.2) hr)

/-- Two tasks do not reach for the same feed. -/
theorem reach_apart (hm : m.Reachable) (hsolo : m.Solo) (hij : i ≠ j)
    (ht : m.tasks[i]? = some t) (hu : m.tasks[j]? = some u) (hr : t.resource = u.resource)
    (p : Nat) (hp : m.reach t = some p) : m.reach u ≠ some p := by
  intro hq
  rcases aborted_or_aborted hm hsolo hij ht hu hr with haborted | haborted
  · rw [reach_of_aborted m haborted] at hp
    exact hm.wired.reach_ne (Ne.symm hij) hu ht hr.symm hp hq
  · rw [reach_of_aborted m haborted] at hq
    exact hm.wired.reach_ne hij ht hu hr hq hp

/-- The turn of a task is the same after another one has run, and so is what it works on. -/
theorem turn_runStream (hm : m.Reachable) (hsolo : m.Solo) (hij : i ≠ j)
    (ht : m.tasks[i]? = some t) (hu : m.tasks[j]? = some u) :
    (m.runStream i).turn u = m.turn u ∧ (m.runStream i).reach u = m.reach u := by
  rw [runStream_eq_turn ht]
  let p := m.progressOf (m.reach t) (m.turn t)
  have hreach : (m.progress i t p).reach u = m.reach u := by
    have hoffered (h : u.resource = t.resource → t.aborted = true) :
        (m.progress i t p).reach u = m.reach u := by
      change u.reach (p.feeds.get u.resource) = u.reach (m.feeds.get u.resource)
      unfold StreamTask.reach
      congr 2
      funext handle
      exact offered?_progressOf hm.wired ht h _
    by_cases hr : t.resource = u.resource
    · rcases aborted_or_aborted hm hsolo hij ht hu hr with haborted | haborted
      · exact hoffered fun _ => haborted
      · rw [reach_of_aborted _ haborted, reach_of_aborted _ haborted]
    · exact hoffered fun h => absurd h.symm hr
  refine ⟨turn_congr (fresh_progress p u) hreach ?_, hreach⟩
  cases hq : m.reach u with
  | none => rfl
  | some q =>
      refine getElem?_feeds_progressOf_of_ne (m.turn t) fun hr hp => ?_
      exact reach_apart hm hsolo hij ht hu hr.symm q hp hq

/-! ### Agreement -/

/-- Two monitors are the same but for the order of the requests and for what was told. -/
structure Agree (m n : Monitor) : Prop where
  tasks : m.tasks = n.tasks
  store : m.store = n.store
  feeds : m.feeds = n.feeds
  alive : m.alive = n.alive
  epoch : m.epoch = n.epoch
  requests : m.requests.entries.Perm n.requests.entries

namespace Agree

theorem refl (m : Monitor) : m.Agree m := ⟨rfl, rfl, rfl, rfl, rfl, .refl _⟩

theorem symm (h : m.Agree n) : n.Agree m :=
  ⟨h.tasks.symm, h.store.symm, h.feeds.symm, h.alive.symm, h.epoch.symm, h.requests.symm⟩

theorem trans {o : Monitor} (h : m.Agree n) (h' : n.Agree o) : m.Agree o :=
  ⟨h.tasks.trans h'.tasks, h.store.trans h'.store, h.feeds.trans h'.feeds,
    h.alive.trans h'.alive, h.epoch.trans h'.epoch, h.requests.trans h'.requests⟩

theorem reach (h : m.Agree n) (u : StreamTask) : m.reach u = n.reach u := by
  unfold Monitor.reach
  rw [h.feeds]

theorem turn (h : m.Agree n) (u : StreamTask) : m.turn u = n.turn u := by
  refine turn_congr ?_ (h.reach u) ?_
  · rw [fresh, fresh, snapshot, snapshot, h.store]
  · rw [feedAt, feedAt, h.feeds]

theorem runStream (h : m.Agree n) (i : Nat) : (m.runStream i).Agree (n.runStream i) := by
  cases ht : m.tasks[i]? with
  | none =>
      have hm : m.runStream i = m := by simp [Monitor.runStream, ht]
      have hn : n.runStream i = n := by simp [Monitor.runStream, ← h.tasks, ht]
      rw [hm, hn]
      exact h
  | some t =>
      have ht' : n.tasks[i]? = some t := h.tasks ▸ ht
      rw [runStream_eq_turn ht, runStream_eq_turn ht', h.turn, h.reach]
      refine ⟨?_, ?_, ?_, h.alive, h.epoch, ?_⟩
      · simp only [progress, progressOf, h.tasks]
      · simp only [progress, progressOf, h.store]
      · simp only [progress, progressOf, h.feeds]
      · exact h.requests.append_right _

/-- The queue does not matter. -/
theorem run_stream (m : Monitor) (i : Nat) : (m.run (.stream i)).Agree (m.runStream i) := by
  obtain ⟨queue, hrun⟩ := m.exists_run_stream_eq i
  rw [hrun]
  exact ⟨rfl, rfl, rfl, rfl, rfl, .refl _⟩

/-- Observers only listen. -/
theorem run_observer (m : Monitor) (k : Nat) : (m.run (.observer k)).Agree m := by
  obtain ⟨board, observers, queue, hrun, -⟩ := m.exists_run_observer_eq k
  rw [hrun]
  exact ⟨rfl, rfl, rfl, rfl, rfl, .refl _⟩

theorem run (h : m.Agree n) (j : Job) : (m.run j).Agree (n.run j) := by
  cases j with
  | stream i => exact ((run_stream m i).trans (h.runStream i)).trans (run_stream n i).symm
  | observer k => exact ((run_observer m k).trans h).trans (run_observer n k).symm

theorem runAll (h : m.Agree n) (js : List Job) : (m.runAll js).Agree (n.runAll js) := by
  induction js generalizing m n with
  | nil => exact h
  | cons j js ih => exact ih (h.run j)

end Agree

/-! ### Two runs in either order -/

/-- A task that was not there before is not there after a run. -/
theorem runStream_of_none (h : m.tasks[i]? = none) (j : Nat) :
    ((m.runStream j).runStream i) = m.runStream j := by
  have hsame : (m.runStream j).tasks.map (·.audience) = m.tasks.map (·.audience) :=
    map_tasks_runStream (fun _ _ _ _ => rfl) m j
  have hlength : (m.runStream j).tasks.length = m.tasks.length := by
    simpa using congrArg List.length hsame
  have hnone : (m.runStream j).tasks[i]? = none := by
    rw [List.getElem?_eq_none_iff] at h ⊢
    exact hlength.trans_le h
  rw [Monitor.runStream, hnone]

/-- Two runs of stream tasks come to the same in either order. -/
theorem agree_runStream_comm (hm : m.Reachable) (hsolo : m.Solo) (i j : Nat) :
    ((m.runStream i).runStream j).Agree ((m.runStream j).runStream i) := by
  by_cases hij : i = j
  · rw [hij]
    exact .refl _
  cases ht : m.tasks[i]? with
  | none =>
      rw [runStream_of_none ht, runStream_of_missing ht]
      exact .refl _
  | some t =>
  cases hu : m.tasks[j]? with
  | none =>
      rw [runStream_of_none hu, runStream_of_missing hu]
      exact .refl _
  | some u =>
  obtain ⟨hturn, hreach⟩ := turn_runStream hm hsolo hij ht hu
  obtain ⟨hturn', hreach'⟩ := turn_runStream hm hsolo (Ne.symm hij) hu ht
  have hu' : (m.runStream i).tasks[j]? = some u :=
    (m.getElem?_tasks_runStream_of_ne hij).trans hu
  have ht' : (m.runStream j).tasks[i]? = some t :=
    (m.getElem?_tasks_runStream_of_ne (Ne.symm hij)).trans ht
  -- Of two tasks of one resource the one that was aborted takes no messages.
  have hmessages : t.resource = u.resource →
      (m.turn t).messages = [] ∨ (m.turn u).messages = [] := fun hr =>
    (aborted_or_aborted hm hsolo hij ht hu hr).imp
      (fun h => (nothing_of_aborted m h).1) fun h => (nothing_of_aborted m h).1
  rw [runStream_eq_turn hu', runStream_eq_turn ht', hturn, hreach, hturn', hreach',
    runStream_eq_turn ht, runStream_eq_turn hu]
  refine ⟨?_, ?_, ?_, rfl, rfl, ?_⟩
  · exact List.set_comm _ _ hij
  · exact m.store.modify_deliver_comm hmessages _ _
  · exact m.feeds.modify_alter_comm (reach_apart hm hsolo hij ht hu) _ _
  · change ((_ ++ _) ++ _ : List StreamRequest).Perm ((_ ++ _) ++ _)
    rw [List.append_assoc, List.append_assoc]
    exact List.perm_append_comm.append_left _

/-- The order in which stream tasks run does not matter. -/
theorem agree_of_perm {is js : List Nat} (h : is.Perm js) (hm : m.Reachable) (hsolo : m.Solo) :
    (m.runAll (is.map .stream)).Agree (m.runAll (js.map .stream)) := by
  induction h generalizing m with
  | nil => exact .refl _
  | cons i _ ih => exact ih (hm.run _) (solo_of_audiences hsolo (m.map_audience_run _))
  | swap i j is =>
      have hboth (i j : Nat) : ((m.run (.stream i)).run (.stream j)).Agree
          ((m.runStream i).runStream j) :=
        (Agree.run_stream _ j).trans ((Agree.run_stream m i).runStream j)
      refine Agree.runAll ?_ (is.map .stream)
      exact ((hboth j i).trans (agree_runStream_comm hm hsolo j i)).trans (hboth i j).symm
  | trans _ _ ih ih' => exact (ih hm hsolo).trans (ih' hm hsolo)

/-! ### Whole schedules -/

/-- The stream tasks among some jobs. -/
def streams (js : List Job) : List Nat :=
  js.filterMap fun
    | .stream i => some i
    | .observer _ => none

theorem mem_streams {js : List Job} : i ∈ streams js ↔ .stream i ∈ js := by
  unfold streams
  rw [List.mem_filterMap]
  constructor
  · rintro ⟨j, hj, h⟩
    cases j with
    | stream l => exact Option.some.inj h ▸ hj
    | observer k => cases h
  · exact fun h => ⟨_, h, rfl⟩

/-- The observers' runs may be left out. -/
theorem agree_streams (m : Monitor) (js : List Job) :
    (m.runAll js).Agree (m.runAll ((streams js).map .stream)) := by
  induction js generalizing m with
  | nil => exact .refl m
  | cons j js ih =>
      cases j with
      | stream i => exact ih (m.run (.stream i))
      | observer k => exact (ih _).trans ((Agree.run_observer m k).runAll _)

/-- Nobody is ready after the schedule. -/
def Completes (m : Monitor) (js : List Job) : Prop :=
  m.Schedule js ∧ (m.runAll js).isSettled = true

instance (m : Monitor) (js : List Job) : Decidable (m.Completes js) :=
  inferInstanceAs (Decidable (_ ∧ _))

/-- A stream task that does not run stays as ready as it was. -/
theorem isReady_runAll_of_not_mem (hm : m.Reachable) {js : List Job} (h : .stream i ∉ js) :
    (m.runAll js).isReady (.stream i) = m.isReady (.stream i) := by
  induction js generalizing m with
  | nil => rfl
  | cons j js ih =>
      rw [List.mem_cons, not_or] at h
      rw [runAll_cons, ih (hm.run j) h.2, ready_stream_run hm.wired (Ne.symm h.1)]

/-- A schedule runs each stream task at most once, and only if it was ready at the start. -/
theorem Schedule.streams (hm : m.Reachable) {js : List Job} (h : m.Schedule js) :
    (Monitor.streams js).Nodup ∧ ∀ i ∈ Monitor.streams js, m.isReady (.stream i) = true := by
  induction js generalizing m with
  | nil => exact ⟨List.nodup_nil, fun i hi => nomatch hi⟩
  | cons j js ih =>
      obtain ⟨hready, hrest⟩ := h
      obtain ⟨hnodup, hlater⟩ := ih (hm.run j) hrest
      cases j with
      | stream i =>
          have honce : i ∉ Monitor.streams js := fun hi => by
            have hagain := hlater i hi
            rw [not_ready_run hm.attentive.lined] at hagain
            cases hagain
          refine ⟨List.nodup_cons.mpr ⟨honce, hnodup⟩, fun l hl => ?_⟩
          rcases List.mem_cons.mp hl with rfl | hl
          · exact hready
          · have hli : i ≠ l := fun h => honce (h ▸ hl)
            rw [← ready_stream_run hm.wired fun h => hli (Job.stream.inj h)]
            exact hlater l hl
      | observer k =>
          refine ⟨hnodup, fun l hl => ?_⟩
          rw [← ready_stream_run hm.wired (j := .observer k) (by simp)]
          exact hlater l hl

/-- A schedule after which nobody is ready has run exactly the stream tasks that were ready. -/
theorem Completes.mem_streams (hm : m.Reachable) {js : List Job} (h : m.Completes js) (i : Nat) :
    i ∈ Monitor.streams js ↔ m.isReady (.stream i) = true := by
  refine ⟨(h.1.streams hm).2 i, fun hready => ?_⟩
  by_contra hnot
  rw [Monitor.mem_streams] at hnot
  have hafter := isSettled_iff.mp h.2 (.stream i)
  rw [isReady_runAll_of_not_mem hm hnot, hready] at hafter
  cases hafter

/-- Two such schedules run the same stream tasks. -/
theorem Completes.streams_perm (hm : m.Reachable) {js ks : List Job} (hjs : m.Completes js)
    (hks : m.Completes ks) : (Monitor.streams js).Perm (Monitor.streams ks) := by
  refine (List.perm_ext_iff_of_nodup (hjs.1.streams hm).1 (hks.1.streams hm).1).mpr fun i => ?_
  rw [hjs.mem_streams hm, hks.mem_streams hm]

/-- So they come to the same. -/
theorem Completes.agree (hm : m.Reachable) (hsolo : m.Solo) {js ks : List Job}
    (hjs : m.Completes js) (hks : m.Completes ks) : (m.runAll js).Agree (m.runAll ks) :=
  ((m.agree_streams js).trans (agree_of_perm (hjs.streams_perm hm hks) hm hsolo)).trans
    (m.agree_streams ks).symm

end Monitor

end BrokerMonitor
