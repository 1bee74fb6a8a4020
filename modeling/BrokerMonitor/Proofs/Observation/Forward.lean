import BrokerMonitor.Proofs.Observation.Complete
import BrokerMonitor.Proofs.Outside
import BrokerMonitor.Proofs.Status.Delivery
import BrokerMonitor.Proofs.Status.Traffic
/-!
# What an observer hears goes forward

The statuses that a monitor computes are, in order, those of one generation after the other
(`Orderly`): with a connection each is one step above the one before, and without one all are the
same, one for the shutdown and at most one for each task. What an observer hears is a stretch of
this series (`Hears`), so it is as orderly and no longer.
-/

namespace BrokerMonitor

open BrokerStatus

/-- A task that has not started has said nothing, and one that reads has a connection and has said
that it is connecting, if not more. -/
structure StreamTask.Voiced (t : StreamTask) : Prop where
  spawned : t.phase = .spawned → t.reporter.last = none
  reading : ∀ held, t.phase = .reading held → t.target.isSome = true ∧ t.reporter.Opened

namespace Monitor

variable {m m' : Monitor} {i : Nat} {t : StreamTask} {log : List BrokerStatus}

/-! ### What tasks say -/

theorem eq_streaming_of_mem_said_goOn {t : StreamTask} {fresh : Bool}
    {feed : Option (Feed t.resource)} {s : StreamStatus} (h : s ∈ (t.goOn fresh feed).said) :
    s = .streaming := by
  rw [t.said_goOn] at h
  obtain ⟨_, -, rfl⟩ := List.mem_map.mp h
  rfl

/-- A task with a connection says nothing but the next step up. -/
theorem climbs_turn (h : t.Voiced) (htarget : t.target.isSome = true) :
    t.reporter.Climbs (m.turn t).said := by
  unfold turn
  refine StreamTask.turn_elim ?_ ?_ ?_ ?_ ?_
  · exact fun _ => trivial
  · exact fun _ _ => trivial
  · intro _ _ hnone
    rw [hnone] at htarget
    cases htarget
  · intro handle hspawned _ _
    refine ⟨fun _ => ?_, t.reporter.opened_report_connecting.climbs fun s hs => ?_⟩
    · rw [h.spawned hspawned]
      rfl
    · exact eq_streaming_of_mem_said_goOn hs
  · intro held hheld _
    exact (h.reading held hheld).2.climbs fun s hs => eq_streaming_of_mem_said_goOn hs

/-- After its turn a task has said what it should. -/
theorem voiced_turn (m : Monitor) (h : t.Voiced) (count : Nat) :
    (t.progress (m.turn t).said count (m.turn t).phase).Voiced := by
  refine ⟨fun hspawned => absurd hspawned (m.phase_turn_ne_spawned t), fun held hheld => ?_⟩
  have hphase : (m.turn t).phase = .reading held := hheld
  change t.target.isSome = true ∧ (t.reporter.reportAll (m.turn t).said).1.Opened
  revert hphase
  unfold turn
  refine StreamTask.turn_elim ?_ ?_ ?_ ?_ ?_
  · intro hended hphase
    rw [StreamTask.hasEnded_of_reading hphase] at hended
    cases hended
  · exact fun _ _ => nofun
  · exact fun _ _ _ => nofun
  · intro handle _ _ htarget _
    exact ⟨by rw [htarget]; rfl, t.reporter.opened_report_connecting.reportAll _⟩
  · intro held' hheld' _ _
    obtain ⟨htarget, hopened⟩ := h.reading held' hheld'
    exact ⟨htarget, hopened.reportAll _⟩

/-- Every task has said what it should. -/
def Voiced (m : Monitor) : Prop := ∀ t ∈ m.tasks, t.Voiced

namespace Voiced

theorem initial (rate : Option UInt32) : (Monitor.initial rate).Voiced :=
  fun _ h => absurd h List.not_mem_nil

theorem step (h : m.Voiced) (step : m.Step m') : m'.Voiced := by
  refine forall_tasks_step ?_ ?_ ?_ (fun m t count ht => m.voiced_turn ht count) h step
  · intro t u hcore ht
    have hsame : t.core.Voiced := ⟨ht.spawned, ht.reading⟩
    rw [hcore] at hsame
    exact ⟨hsame.spawned, hsame.reading⟩
  · exact fun r k rate audience => ⟨fun _ => rfl, fun _ => nofun⟩
  · exact fun r g audience => ⟨fun _ => rfl, fun _ => nofun⟩

theorem leads (h : m.Voiced) (hm : m.Leads m') : m'.Voiced := by
  induction hm with
  | refl => exact h
  | tail _ step ih => exact ih.step step

end Voiced

/-! ### Counting tasks -/

/-- The board listens to the task. -/
def isHeeded (m : Monitor) (t : StreamTask) : Bool :=
  t.audience == .board && t.generation == m.generation

theorem isHeeded_iff : m.isHeeded t = true ↔ m.Heeds t := by simp [isHeeded, Heeds]

/-- How many of the tasks that the board listens to satisfy `p`. -/
def countHeeded (m : Monitor) (p : StreamTask → Bool) : Nat :=
  m.tasks.countP fun t => m.isHeeded t && p t

/-- What is done to tasks from outside does not change the count. -/
theorem countHeeded_of_map_core {p : StreamTask → Bool} (hp : ∀ t, p t.core = p t)
    (hgeneration : m'.generation = m.generation)
    (htasks : m'.tasks.map StreamTask.core = m.tasks.map StreamTask.core) :
    m'.countHeeded p = m.countHeeded p := by
  let q : StreamTask → Bool := fun t => m.isHeeded t && p t
  have hq : ∀ ts : List StreamTask, (ts.map StreamTask.core).countP q = ts.countP q := by
    intro ts
    rw [List.countP_map]
    congr 1
    funext t
    exact congrArg (_ && ·) (hp t)
  have hsame : m'.countHeeded p = m'.tasks.countP q := by
    simp only [countHeeded, isHeeded, hgeneration, q]
  rw [hsame, ← hq m'.tasks, htasks, hq]
  rfl

/-- A client does not count. -/
theorem countHeeded_client {c : StreamTask} (hc : c.audience = .log) (p : StreamTask → Bool) :
    (m.spawn c).countHeeded p = m.countHeeded p := by
  have hnot : m.isHeeded c = false := by simp [isHeeded, hc]
  have hsame : (m.spawn c).countHeeded p =
      (m.tasks ++ [c]).countP fun t => m.isHeeded t && p t := rfl
  rw [hsame, List.countP_append]
  simp [hnot, countHeeded]

/-- A run counts as its task does, before and after. -/
theorem countHeeded_progress (ht : m.tasks[i]? = some t) (x : Progress t.resource)
    (p : StreamTask → Bool) :
    (m.progress i t x).countHeeded p + (m.isHeeded t && p t).toNat = m.countHeeded p +
      (m.isHeeded t && p (t.progress x.said x.messages.length x.phase)).toNat := by
  obtain ⟨hlt, hget⟩ := List.getElem?_eq_some_iff.mp ht
  let q : StreamTask → Bool := fun u => m.isHeeded u && p u
  have hset := List.countP_set (p := q) (a := t.progress x.said x.messages.length x.phase) hlt
  have hcounted := List.boole_getElem_le_countP (p := q) hlt
  have hkept : q (t.progress x.said x.messages.length x.phase) =
      (m.isHeeded t && p (t.progress x.said x.messages.length x.phase)) := by simp [q, isHeeded]
  rw [hget, hkept] at hset
  rw [hget] at hcounted
  have hboole : ∀ b : Bool, b.toNat = if b then 1 else 0 := by decide
  change List.countP q (m.tasks.set i _) + (q t).toNat = List.countP q m.tasks + _
  rw [hboole, hboole, hset]
  omega

/-- A new generation counts its own tasks only. -/
theorem countHeeded_attach (hm : m.Lockstep) {g : Generation} {handle : Option Handle}
    (hg : m.generation.next? = some g) (p : StreamTask → Bool) :
    (m.attach g handle).countHeeded p =
      (Resource.all.map (m.taskFor g handle)).countP fun t =>
        (m.attach g handle).isHeeded t && p t := by
  have hold : m.abandonTasks.tasks.countP (fun t => (m.attach g handle).isHeeded t && p t) = 0 := by
    refine List.countP_eq_zero.mpr fun u hu hcounts => ?_
    rw [Bool.and_eq_true, isHeeded_iff] at hcounts
    have hheeds : (m.attach g handle).Heeds u := hcounts.1
    have hle : u.generation.toNat ≤ m.generation.toNat :=
      (hm.of_map_core m.map_core_abandonTasks).tasks u hu hheeds.1
    have hnew : u.generation = g := hheeds.2
    have hnext := Generation.toNat_of_next? hg
    rw [hnew] at hle
    omega
  rw [countHeeded, tasks_attach, List.countP_append, hold, Nat.zero_add]

/-! ### The series of all statuses -/

/-- `log` is what the monitor has computed from the start: one generation after the other, and each
as it should be. -/
structure Orderly (m : Monitor) (log : List BrokerStatus) : Prop where
  last : log.getLast? = some m.status
  ordered : log.Pairwise (·.generation ≤ ·.generation)
  segments : ∀ st ∈ log, ∃ attached, Segment st.generation attached (ofGeneration st.generation log)
  current : Segment m.generation m.handle.isSome (ofGeneration m.generation log)
  crew : m.countHeeded (fun _ => true) ≤ Resource.all.length
  /-- Without a connection each task that has reported has added one status. -/
  idle : m.handle.isSome = false →
    (ofGeneration m.generation log).length = 1 + m.countHeeded (·.reporter.last.isSome)

theorem Tracks.status {events : List StatusBoard.Event} (h : m.Tracks events m') :
    m'.status = (m.status.recomputed events).getLast?.getD m.status := by
  rw [Monitor.status, h.board]
  exact m.board.current_afterAll events

/-- Reports do not lead out of a generation. -/
theorem generation_of_mem_recomputed {s st : BrokerStatus} {reports : List Report}
    (h : st ∈ s.recomputed (reports.map .report)) : st.generation = s.generation := by
  induction reports generalizing s with
  | nil => cases h
  | cons told rest ih =>
      simp only [List.map_cons, recomputed, recompute?] at h
      cases hst : s.accept? told with
      | none =>
          rw [hst] at h
          exact ih (by simpa using h)
      | some next =>
          have hnext := generation_of_accept? hst
          rw [hst] at h
          rcases List.mem_append.mp h with h | h
          · rw [Option.toList_some, List.mem_singleton] at h
            exact h ▸ hnext
          · exact (ih h).trans hnext

namespace Orderly

theorem initial (rate : Option UInt32) :
    (Monitor.initial rate).Orderly [.detached .initial] where
  last := rfl
  ordered := List.pairwise_singleton _ _
  segments st hst := by
    obtain rfl := List.mem_singleton.mp hst
    exact ⟨false, .begin .initial false⟩
  current := .begin .initial false
  crew := Nat.zero_le _
  idle _ := rfl

/-- No generation has been computed that is yet to be opened. -/
theorem generation_le (h : m.Orderly log) (hm : m.Lockstep) {st : BrokerStatus} (hst : st ∈ log) :
    st.generation ≤ m.generation := by
  obtain ⟨init, rfl⟩ := List.getLast?_eq_some_iff.mp h.last
  have hle : st.generation ≤ m.status.generation := by
    rcases List.mem_append.mp hst with hold | hlast
    · exact (List.pairwise_append.mp h.ordered).2.2 st hold _ List.mem_cons_self
    · rw [List.mem_singleton.mp hlast]
      exact Nat.le_refl _
  exact hm.status ▸ hle

/-- The current status is the last one of the current generation. -/
theorem last_ofGeneration (h : m.Orderly log) (hm : m.Lockstep) :
    (ofGeneration m.generation log).getLast? = some m.status := by
  obtain ⟨init, hinit⟩ := List.getLast?_eq_some_iff.mp h.last
  rw [hinit, ofGeneration_append, ofGeneration_of_forall (l := [m.status])]
  · exact List.getLast?_concat
  · simpa using hm.status

/-- What is computed in the current generation goes behind, if it goes forward or, without a
connection, each task says its one thing. -/
theorem extend (h : m.Orderly log) (hm : m.Lockstep) {news : List BrokerStatus}
    (hstatus : m'.status = news.getLast?.getD m.status) (hepoch : m'.epoch = m.epoch)
    (hnews : ∀ st ∈ news, st.generation = m.generation)
    (hclimbs : m.handle.isSome = true → (m.status :: news).IsChain Advances)
    (hidle : m.handle.isSome = false → (∀ st ∈ news, st = .detached m.generation) ∧
      news.length + m.countHeeded (·.reporter.last.isSome) =
        m'.countHeeded (·.reporter.last.isSome))
    (hcrew : m'.countHeeded (fun _ => true) = m.countHeeded fun _ => true) :
    m'.Orderly (log ++ news) := by
  have hgeneration : m'.generation = m.generation := congrArg Prod.fst hepoch
  have hhandle : m'.handle = m.handle := congrArg Prod.snd hepoch
  have hgrown : ofGeneration m.generation (log ++ news) =
      ofGeneration m.generation log ++ news := by
    rw [ofGeneration_append, ofGeneration_of_forall hnews]
  have hcount : m.handle.isSome = false →
      (ofGeneration m.generation log ++ news).length =
        1 + m'.countHeeded (·.reporter.last.isSome) := by
    intro hdetached
    rw [List.length_append, h.idle hdetached]
    have := (hidle hdetached).2
    omega
  have hcurrent : Segment m.generation m.handle.isSome
      (ofGeneration m.generation log ++ news) := by
    refine h.current.append (h.last_ofGeneration hm) hclimbs fun hdetached =>
      ⟨?_, (hidle hdetached).1⟩
    have hspoke : m'.countHeeded (·.reporter.last.isSome) ≤ m'.countHeeded fun _ => true :=
      List.countP_mono_left fun t _ ht => by simp_all
    have hroom := h.crew
    rw [hcount hdetached]
    omega
  refine ⟨?_, ?_, ?_, ?_, hcrew ▸ h.crew, ?_⟩
  · rw [List.getLast?_append, h.last, hstatus]
    cases news.getLast? <;> rfl
  · refine List.pairwise_append.mpr ⟨h.ordered, ?_, ?_⟩
    · refine List.pairwise_of_forall_mem_list fun st hst st' hst' => ?_
      rw [hnews st hst, hnews st' hst']
      exact Nat.le_refl _
    · intro st hst st' hst'
      rw [hnews st' hst']
      exact h.generation_le hm hst
  · intro st hst
    by_cases hg : st.generation = m.generation
    · rw [hg, hgrown]
      exact ⟨_, hcurrent⟩
    · have hold : st ∈ log := by
        rcases List.mem_append.mp hst with hold | hnew
        · exact hold
        · exact absurd (hnews st hnew) hg
      rw [ofGeneration_append_left fun st' hst' h => hg (h.symm.trans (hnews st' hst'))]
      exact h.segments st hold
  · rw [hgeneration, hhandle, hgrown]
    exact hcurrent
  · rw [hgeneration, hhandle, hgrown]
    exact hcount

/-- Where nothing is computed, and the tasks are as they were to the board, nothing is added. -/
theorem keep (h : m.Orderly log) (hm : m.Lockstep) {events : List StatusBoard.Event}
    (htracks : m.Tracks events m') (hnothing : m.status.recomputed events = [])
    (hepoch : m'.epoch = m.epoch)
    (hcount : ∀ p : StreamTask → Bool, (∀ t, p t.core = p t) →
      m'.countHeeded p = m.countHeeded p) :
    m'.Orderly (log ++ m.status.recomputed events) := by
  refine h.extend hm htracks.status hepoch ?_ ?_ ?_ (hcount _ fun _ => rfl)
  · simp [hnothing]
  · simp [hnothing]
  · intro _
    rw [hnothing, hcount _ fun _ => rfl]
    exact ⟨by simp, Nat.zero_add _⟩

theorem attach (h : m.Orderly log) (hm : m.Lockstep) {g : Generation} {handle : Option Handle}
    (hg : m.generation.next? = some g) :
    (m.attach g handle).Orderly (log ++ [.begin g handle.isSome]) := by
  have hnext := Generation.toNat_of_next? hg
  have hbefore : ∀ st ∈ log, st.generation.toNat < g.toNat := by
    intro st hst
    have hle : st.generation.toNat ≤ m.generation.toNat := h.generation_le hm hst
    omega
  have hnone : ofGeneration g log = [] :=
    ofGeneration_eq_nil fun st hst hsame => by
      have := hbefore st hst
      rw [hsame] at this
      exact absurd this (Nat.lt_irrefl _)
  have hcurrent : ofGeneration g (log ++ [.begin g handle.isSome]) =
      [.begin g handle.isSome] := by
    rw [ofGeneration_append, hnone]
    exact ofGeneration_of_forall (by simp)
  refine ⟨List.getLast?_concat, ?_, ?_, ?_, ?_, ?_⟩
  · refine List.pairwise_append.mpr ⟨h.ordered, List.pairwise_singleton _ _, ?_⟩
    intro st hst st' hst'
    rw [List.mem_singleton.mp hst']
    exact Nat.le_of_lt (hbefore st hst)
  · intro st hst
    rcases List.mem_append.mp hst with hold | hnew
    · have hne : g ≠ st.generation := by
        rintro rfl
        exact absurd (hbefore st hold) (Nat.lt_irrefl _)
      rw [ofGeneration_append_left (by simpa using hne)]
      exact h.segments st hold
    · rw [List.mem_singleton.mp hnew, generation_begin, hcurrent]
      exact ⟨_, .begin g handle.isSome⟩
  · change Segment g handle.isSome (ofGeneration g (log ++ [.begin g handle.isSome]))
    rw [hcurrent]
    exact .begin g handle.isSome
  · rw [countHeeded_attach hm hg]
    exact List.countP_le_length.trans (Nat.le_of_eq (List.length_map _))
  · intro _
    have hsilent : (m.attach g handle).countHeeded (·.reporter.last.isSome) = 0 := by
      rw [countHeeded_attach hm hg]
      refine List.countP_eq_zero.mpr fun u hu => ?_
      obtain ⟨r, -, rfl⟩ := List.mem_map.mp hu
      cases handle <;> simp [taskFor, StreamTask.attached, StreamTask.detached]
    rw [hsilent]
    exact congrArg List.length hcurrent

/-- Without a connection the status is as it was begun. -/
theorem status_eq_detached (h : m.Orderly log) (hm : m.Lockstep)
    (hdetached : m.handle.isSome = false) : m.status = .detached m.generation :=
  (h.current.idle hdetached).2 _ (List.mem_of_getLast? (h.last_ofGeneration hm))

/-- What a task reports that the board listens to goes forward, or is its one report. -/
theorem runStream_of_heeds (h : m.Orderly log) (hm : m.Exact) (ht : m.tasks[i]? = some t)
    (hheeds : m.Heeds t) (hvoiced : t.Voiced)
    (hstatus : m'.status = (m.status.recomputed ((m.codes i).map .report)).getLast?.getD m.status)
    (hepoch : m'.epoch = m.epoch)
    (hcount : ∀ p, m'.countHeeded p = (m.runStream i).countHeeded p) :
    m'.Orderly (log ++ m.status.recomputed ((m.codes i).map .report)) := by
  have hshown := hm.shown i t ht hheeds
  have hcodes : m.codes i = t.passedOn (m.turn t).said := by simp [codes, ht, hheeds.1]
  have hprogress : ∀ p : StreamTask → Bool, m'.countHeeded p + (p t).toNat = m.countHeeded p +
      (p (t.progress (m.turn t).said (m.turn t).messages.length (m.turn t).phase)).toNat := by
    intro p
    have hrun := countHeeded_progress ht (m.progressOf (m.reach t) (m.turn t)) p
    rwa [isHeeded_iff.mpr hheeds, Bool.true_and, Bool.true_and, ← runStream_eq_turn ht,
      ← hcount] at hrun
  refine h.extend hm.lockstep hstatus hepoch ?_ (fun hattached => ?_) (fun hdetached => ?_) ?_
  · intro st hst
    exact (generation_of_mem_recomputed hst).trans hm.lockstep.status
  · have hshows := hm.shows ht hheeds
    rw [hattached] at hshows
    rw [hcodes]
    exact hshows.isChain (climbs_turn hvoiced (hshown.target.trans hattached))
  · have hsaid : ∀ s ∈ (m.turn t).said, s = .idle :=
      (m.possible_turn t).idle hshown hdetached
    have hreports : ∀ told ∈ m.codes i,
        told.generation = m.generation ∧ told.status = .idle := by
      intro told htold
      rw [hcodes] at htold
      obtain ⟨s, hs, rfl⟩ := Reporter.exists_of_mem_reportAll htold
      exact ⟨hheeds.2, hsaid s hs⟩
    have hlength := t.reporter.length_reportAll_idle hsaid
    have hspoke := hprogress (·.reporter.last.isSome)
    rw [h.status_eq_detached hm.lockstep hdetached, recomputed_detached hreports]
    refine ⟨fun st hst => List.eq_of_mem_replicate hst, ?_⟩
    rw [List.length_replicate, hcodes]
    change (t.reporter.reportAll (m.turn t).said).2.length + _ = _
    change _ = m.countHeeded _ + (t.reporter.reportAll (m.turn t).said).1.last.isSome.toNat
      at hspoke
    omega
  · have hcrew := hprogress fun _ => true
    omega

/-- What a task reports that the board does not listen to computes nothing. -/
theorem recomputed_codes_of_not_heeds (hm : m.Lockstep) (ht : m.tasks[i]? = some t)
    (hheeds : ¬ m.Heeds t) : m.status.recomputed ((m.codes i).map .report) = [] := by
  have hstale : ∀ told ∈ m.codes i, told.generation ≠ m.status.generation := by
    intro told htold
    obtain ⟨u, hu, haudience, hmem⟩ := exists_of_mem_codes htold
    obtain rfl := Option.some.inj (ht.symm.trans hu)
    rw [(Reporter.tags_of_mem_reportAll hmem).2, hm.status]
    exact fun hg => hheeds ⟨haudience, hg⟩
  generalize m.codes i = reports at hstale
  induction reports with
  | nil => rfl
  | cons told rest ih =>
      obtain ⟨hfirst, hrest⟩ := List.forall_mem_cons.mp hstale
      simp [recomputed, recompute?, BrokerStatus.accept?, hfirst, ih hrest]

theorem run_stream (h : m.Orderly log) (hm : m.Exact) (hvoiced : m.Voiced)
    (htracks : m.Tracks ((m.codes i).map .report) (m.run (.stream i))) :
    (m.run (.stream i)).Orderly (log ++ m.status.recomputed ((m.codes i).map .report)) := by
  have hepoch := m.epoch_run (.stream i)
  have hcount : ∀ p, (m.run (.stream i)).countHeeded p = (m.runStream i).countHeeded p := by
    intro p
    obtain ⟨queue, hrun⟩ := m.exists_run_stream_eq i
    rw [hrun]
    rfl
  cases ht : m.tasks[i]? with
  | none =>
      refine h.keep hm.lockstep htracks (by simp [codes, ht, recomputed]) hepoch fun p _ => ?_
      rw [hcount, runStream_of_missing ht]
  | some t =>
      by_cases hheeds : m.Heeds t
      · exact h.runStream_of_heeds hm ht hheeds (hvoiced t (List.mem_of_getElem? ht))
          htracks.status hepoch hcount
      · refine h.keep hm.lockstep htracks (recomputed_codes_of_not_heeds hm.lockstep ht hheeds)
          hepoch fun p _ => ?_
        have hnot : m.isHeeded t = false := by
          rw [← Bool.not_eq_true, isHeeded_iff]
          exact hheeds
        have hrun := countHeeded_progress ht (m.progressOf (m.reach t) (m.turn t)) p
        rwa [hnot, ← runStream_eq_turn ht, ← hcount] at hrun

/-- Every step is a series of events for the board and the observers, and what these compute goes
behind. -/
theorem step (h : m.Orderly log) (hm : m.Exact) (hvoiced : m.Voiced) (hlined : m.Lined)
    (step : m.Step m') :
    ∃ events, m.Tracks events m' ∧ m'.Orderly (log ++ m.status.recomputed events) := by
  have hlock := hm.lockstep
  cases step with
  | offer | send | close | refuse | meetRefusal | readRequests =>
      exact ⟨[], tracks_of_hearing rfl,
        h.keep hlock (tracks_of_hearing rfl) rfl rfl fun _ _ => rfl⟩
  | @attach g handle hg => exact ⟨_, m.tracks_attach g handle, h.attach hlock hg⟩
  | observe => exact ⟨_, m.tracks_observe, h.keep hlock m.tracks_observe rfl rfl fun _ _ => rfl⟩
  | unobserve k =>
      exact ⟨_, m.tracks_unobserve k, h.keep hlock (m.tracks_unobserve k) rfl rfl fun _ _ => rfl⟩
  | readHeard ho =>
      exact ⟨_, tracks_readHeard ho, h.keep hlock (tracks_readHeard ho) rfl rfl fun _ _ => rfl⟩
  | drop =>
      exact ⟨[], tracks_of_hearing rfl, h.keep hlock (tracks_of_hearing rfl) rfl rfl fun _ hp =>
        countHeeded_of_map_core hp rfl m.map_core_abandonTasks⟩
  | startOver r k =>
      have hclient := countHeeded_client (m := m) (c := m.clientTask r k) rfl
      exact ⟨[], tracks_of_hearing rfl,
        h.keep hlock (tracks_of_hearing rfl) rfl rfl fun p _ => hclient p⟩
  | startDetached r g =>
      have hclient := countHeeded_client (m := m) (c := .detached r g .log) rfl
      exact ⟨[], tracks_of_hearing rfl,
        h.keep hlock (tracks_of_hearing rfl) rfl rfl fun p _ => hclient p⟩
  | readLog ht =>
      exact ⟨[], tracks_of_hearing rfl, h.keep hlock (tracks_of_hearing rfl) rfl rfl fun _ hp =>
        countHeeded_of_map_core hp rfl (StreamTask.map_set ht rfl)⟩
  | cancel i =>
      exact ⟨[], tracks_of_hearing rfl, h.keep hlock (tracks_of_hearing rfl) rfl rfl fun _ hp =>
        countHeeded_of_map_core hp rfl (StreamTask.map_modify m.tasks i fun _ => rfl)⟩
  | run j =>
      have htracks := tracks_run hlined j
      cases j with
      | stream i => exact ⟨_, htracks, h.run_stream hm hvoiced htracks⟩
      | observer k =>
          refine ⟨_, htracks, h.keep hlock htracks (m.recomputed_boardEvents_observer k _)
            (m.epoch_run _) fun p _ => ?_⟩
          obtain ⟨board, observers, queue, hrun, -⟩ := m.exists_run_observer_eq k
          rw [hrun]
          rfl

end Orderly

/-! ### What is heard of it -/

/-- Every observer has heard a stretch of `log`. One that nobody has aborted is going to hear the
rest, which waits in its line. -/
structure Hears (m : Monitor) (log : List BrokerStatus) : Prop where
  heard : ∀ (k : Nat) (o : Observer), m.observers[k]? = some o → o.heard.entries <:+: log
  waiting : ∀ (k : Nat) (o : Observer), m.observers[k]? = some o → o.aborted = false →
    ∃ inbox, m.board.Holds k inbox ∧ o.heard.entries ++ inbox <:+ log

namespace Hears

theorem initial (rate : Option UInt32) (log : List BrokerStatus) :
    (Monitor.initial rate).Hears log where
  heard _ _ ho := nomatch ho
  waiting _ _ ho := nomatch ho

/-- An observer that was there before hears more of what has been computed. -/
theorem of_tracks (h : m.Hears log) {events : List StatusBoard.Event}
    (htracks : m.Tracks events m') {k : Nat} {o o' : Observer} (ho : m.observers[k]? = some o)
    (ho' : m'.observers[k]? = some o') :
    o'.heard.entries <:+: log ++ m.status.recomputed events ∧
    (o'.aborted = false → ∃ inbox, m'.board.Holds k inbox ∧
      o'.heard.entries ++ inbox <:+ log ++ m.status.recomputed events) := by
  obtain ⟨p, hp, hheard, hsame, -⟩ := htracks.observer k o ho
  obtain rfl := Option.some.inj (hp.symm.trans ho')
  constructor
  · cases haborted : o.aborted with
    | true =>
        rw [(hsame haborted).2]
        exact (h.heard k o ho).trans (List.prefix_append _ _).isInfix
    | false =>
        obtain ⟨inbox, hline, before, hlog⟩ := h.waiting k o ho haborted
        have hreceived : m.board.received k events <+: inbox ++ m.status.recomputed events :=
          hline.received_prefix events
        have hstretch : log ++ m.status.recomputed events =
            before ++ (o.heard.entries ++ (inbox ++ m.status.recomputed events)) := by
          rw [← hlog]
          simp
        rw [hheard, hstretch]
        exact ((List.prefix_append_right_inj _).mpr hreceived).isInfix.trans
          (List.suffix_append _ _).isInfix
  · intro haborted
    obtain ⟨inbox, hline, before, hlog⟩ := h.waiting k o ho (htracks.aborted ho ho' haborted)
    obtain ⟨inbox', hline', hall⟩ := htracks.complete ho ho' haborted hline
    refine ⟨inbox', hline', before, ?_⟩
    rw [hall, ← hlog]
    simp only [List.append_assoc]

theorem step (h : m.Hears log) (hlined : m.Lined) (step : m.Step m')
    {events : List StatusBoard.Event} (htracks : m.Tracks events m')
    (hlast : (log ++ m.status.recomputed events).getLast? = some m'.status) :
    m'.Hears (log ++ m.status.recomputed events) := by
  rcases step.length_observers with rfl | hlength
  · -- The new observer has heard nothing, and the status waits for it.
    have hnew : ∀ (k : Nat) (o : Observer), m.observe.1.observers[k]? = some o →
        (∃ o', m.observers[k]? = some o') ∨
          k = m.observers.length ∧ o = { line := m.board.listeners.length } := by
      intro k o ho
      change (m.observers ++ [_])[k]? = some o at ho
      rcases Nat.lt_or_ge k m.observers.length with hlt | hge
      · exact .inl ⟨_, List.getElem?_eq_getElem hlt⟩
      · rw [List.getElem?_append_right hge, List.getElem?_singleton] at ho
        split at ho
        · exact .inr ⟨by omega, (Option.some.inj ho).symm⟩
        · cases ho
    refine ⟨fun k o ho => ?_, fun k o ho haborted => ?_⟩
    · rcases hnew k o ho with ⟨o', ho'⟩ | ⟨-, rfl⟩
      · exact (h.of_tracks htracks ho' ho).1
      · exact List.nil_infix
    · rcases hnew k o ho with ⟨o', ho'⟩ | ⟨rfl, rfl⟩
      · exact (h.of_tracks htracks ho' ho).2 haborted
      · obtain ⟨before, hbefore⟩ := List.getLast?_eq_some_iff.mp hlast
        have hline := StatusBoard.Holds.listen m.board
        rw [hlined.length] at hline
        exact ⟨[m.status], hline, before, hbefore.symm⟩
  · have hold : ∀ (k : Nat) (o' : Observer), m'.observers[k]? = some o' →
        ∃ o, m.observers[k]? = some o := by
      intro k o' ho'
      obtain ⟨hlt, -⟩ := List.getElem?_eq_some_iff.mp ho'
      exact ⟨_, List.getElem?_eq_getElem (hlength ▸ hlt)⟩
    refine ⟨fun k o' ho' => ?_, fun k o' ho' => ?_⟩
    · obtain ⟨o, ho⟩ := hold k o' ho'
      exact (h.of_tracks htracks ho ho').1
    · obtain ⟨o, ho⟩ := hold k o' ho'
      exact (h.of_tracks htracks ho ho').2

end Hears

/-- The series goes on as the monitor does. -/
theorem exists_orderly_of_leads (h : m.Orderly log) (hhears : m.Hears log) (hm : m.Exact)
    (hvoiced : m.Voiced) (hlined : m.Lined) (hleads : m.Leads m') :
    ∃ more, m'.Orderly (log ++ more) ∧ m'.Hears (log ++ more) := by
  induction hleads with
  | refl => exact ⟨[], by rwa [List.append_nil], by rwa [List.append_nil]⟩
  | @tail n n' hn step ih =>
      obtain ⟨more, horderly, hheard⟩ := ih
      have hlined' := hlined.leads hn
      obtain ⟨events, htracks, hnext⟩ :=
        horderly.step (hm.leads hn) (hvoiced.leads hn) hlined' step
      have hhears' := hheard.step hlined' step htracks hnext.last
      rw [List.append_assoc] at hnext hhears'
      exact ⟨_, hnext, hhears'⟩

end Monitor

namespace Session

/-- What an observer hears of one generation goes forward. Generations come one after the other, and
each that is heard of was opened in the run. With a connection each status after the first one heard
is above the one before by one step of one resource; loading ends at most once and being connected
begins at most once, so that there are at most five statuses, whatever the broker sends. Without a
connection there are at most three, and all of them say that there is none. -/
theorem traffic_is_forward {rate : Option UInt32} {s : Session} (hs : (start rate).Leads s)
    {o : Observer} (ho : o ∈ s.monitor.observers) :
    o.heard.entries.Pairwise (·.generation ≤ ·.generation) ∧
    (∀ st ∈ o.heard.entries, ∃ opened, (start rate).Leads opened ∧ opened.Leads s ∧
      st.generation = opened.monitor.generation) ∧
    ∀ opened, (start rate).Leads opened → opened.Leads s →
      let heard := ofGeneration opened.monitor.generation o.heard.entries
      (opened.monitor.handle.isSome = true →
        heard.IsChain Advances ∧ heard.length ≤ 5 ∧
        (∃ n m, heard.map (·.loading) = List.replicate n true ++ List.replicate m false) ∧
        ∃ n m, heard.map (·.connected) = List.replicate n false ++ List.replicate m true) ∧
      (opened.monitor.handle = none →
        heard.length ≤ 3 ∧ ∀ st ∈ heard, st = .detached opened.monitor.generation) := by
  obtain ⟨k, hk⟩ := List.mem_iff_getElem?.mp ho
  have hexact : ∀ {n : Session}, (start rate).Leads n → n.monitor.Exact :=
    fun hn => (Monitor.Exact.initial rate).leads (monitor_leads hn)
  have hvoiced : (start rate).monitor.Voiced := fun _ ht => absurd ht List.not_mem_nil
  have hlined := Monitor.Lined.initial rate
  have hrest : ∀ opened, (start rate).Leads opened → opened.Leads s → ∃ log log',
      opened.monitor.Orderly log ∧ s.monitor.Orderly (log ++ log') ∧
        s.monitor.Hears (log ++ log') := by
    intro opened hopened hleads
    obtain ⟨log, horderly, hhears⟩ := Monitor.exists_orderly_of_leads
      (Monitor.Orderly.initial rate) (.initial rate _) (hexact .refl) hvoiced hlined
      (monitor_leads hopened)
    obtain ⟨log', horderly', hhears'⟩ := Monitor.exists_orderly_of_leads horderly hhears
      (hexact hopened) (hvoiced.leads (monitor_leads hopened))
      (hlined.leads (monitor_leads hopened)) (monitor_leads hleads)
    exact ⟨_, log', horderly, horderly', hhears'⟩
  refine ⟨?_, ?_, ?_⟩
  · obtain ⟨log, log', -, horderly, hhears⟩ := hrest s hs .refl
    exact horderly.ordered.sublist (hhears.heard k o hk).sublist
  · intro st hst
    obtain ⟨opened, hopened, hleads, hgeneration, -⟩ := (told_of_leads hs).heard o ho st hst
    exact ⟨opened, hopened, hleads, hgeneration⟩
  · intro opened hopened hleads heard
    obtain ⟨log, log', horderly, hlater, hhears⟩ := hrest opened hopened hleads
    have hstretch : heard <:+: ofGeneration opened.monitor.generation (log ++ log') :=
      (hhears.heard k o hk).filter _
    have hgeneration := (hexact hopened).lockstep.status
    have hmem : opened.monitor.status ∈ log ++ log' :=
      List.mem_append_left _ (List.mem_of_getLast? horderly.last)
    obtain ⟨attached, hsegment⟩ := hlater.segments _ hmem
    rw [hgeneration] at hsegment
    have hattached : opened.monitor.handle.isSome = attached :=
      horderly.current.attached_eq hsegment ((List.prefix_append log log').filter _)
    rw [← hattached] at hsegment
    refine ⟨fun hsome => ?_, fun hnone => ?_⟩
    · obtain ⟨before, after, hsplit⟩ := hstretch
      have hclimbs := hsegment.climbs hsome
      rw [← hsplit] at hclimbs
      have hchain : heard.IsChain Advances := hclimbs.left_of_append.right_of_append
      exact ⟨hchain, length_le_of_isChain hchain, exists_replicate_of_isChain hchain⟩
    · obtain ⟨hlength, hall⟩ := hsegment.idle (by rw [hnone]; rfl)
      exact ⟨hstretch.length_le.trans hlength, fun st hst => hall st (hstretch.subset hst)⟩

/-- With messages on both resources an observer hears five statuses of a connect, and three of the
shutdown after it. -/
theorem traffic_is_forward_up_to_the_bounds :
    let connected := (start none).actAll [
      .subscriber (.observe "log"),
      .broker (.offer "first" "[::1]" .channels), .broker (.offer "second" "[::1]" .adapters),
      .connection (.connect "here" "http://[::1]"), .settle,
      .broker (.send "first" .channels []), .broker (.send "second" .adapters []), .settle]
    let s := connected.actAll [.connection .shutdown, .settle]
    ∃ o, s.monitor.observers[0]? = some o ∧
      (ofGeneration ⟨1⟩ o.heard.entries).length = 5 ∧
      (ofGeneration ⟨1⟩ o.heard.entries).IsChain Advances ∧
      (ofGeneration ⟨2⟩ o.heard.entries).length = 3 ∧
      ∀ st ∈ ofGeneration ⟨2⟩ o.heard.entries, st = .detached ⟨2⟩ := by
  intro connected s
  have hthere : (s.monitor.observers[0]?).any (fun o =>
      (ofGeneration ⟨1⟩ o.heard.entries).length == 5 &&
        (ofGeneration ⟨2⟩ o.heard.entries).length == 3) = true := by decide +kernel
  obtain ⟨o, ho, hlengths⟩ := (Option.any_eq_true _ _).mp hthere
  simp only [Bool.and_eq_true, beq_iff_eq] at hlengths
  have hconnected : (start none).Leads connected := (start none).leads_actAll _
  have hs : connected.Leads s := connected.leads_actAll _
  obtain ⟨-, -, hheard⟩ := traffic_is_forward (hconnected.trans hs) (List.mem_of_getElem? ho)
  have hattached := (hheard connected hconnected hs).1 (by decide +kernel)
  have hdetached := (hheard s (hconnected.trans hs) .refl).2 (by decide +kernel)
  have hfirst : connected.monitor.generation = ⟨1⟩ := by decide +kernel
  have hsecond : s.monitor.generation = ⟨2⟩ := by decide +kernel
  rw [hfirst] at hattached
  rw [hsecond] at hdetached
  exact ⟨o, ho, hlengths.1, hattached.1, hlengths.2, hdetached.2⟩

end Session

end BrokerMonitor
