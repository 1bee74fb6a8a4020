import Mathlib.Data.Finset.Card
import BrokerMonitor.Proofs.Generation.Own
import BrokerMonitor.Proofs.Schedule.Ready
/-!
# Settling

A schedule runs ready tasks in any order. Each run of a stream task takes it from those who are
ready, and each run of an observer does so too, while observers become ready only by what stream
tasks report. `potential` counts the runs that this leaves room for. So every schedule ends, and
`settle`, which runs the tasks in the order in which they became ready, ends where nobody is ready.
-/

namespace BrokerMonitor

namespace Monitor

variable {m m' : Monitor}

/-- Each of the jobs is ready when it is run. -/
def Schedule (m : Monitor) : List Job → Prop
  | [] => True
  | j :: js => m.isReady j = true ∧ (m.run j).Schedule js

instance decidableSchedule (m : Monitor) : (js : List Job) → Decidable (m.Schedule js)
  | [] => .isTrue trivial
  | j :: js => @instDecidableAnd _ _ _ (decidableSchedule (m.run j) js)

/-- The jobs that can be run are those of tasks that are there. -/
theorem mem_jobs {j : Job} : j ∈ m.jobs ↔
    (∃ i, i < m.tasks.length ∧ j = .stream i) ∨ ∃ k, k < m.observers.length ∧ j = .observer k := by
  simp only [jobs, List.mem_append, List.mem_map, List.mem_range]
  constructor
  · rintro (⟨i, hi, rfl⟩ | ⟨k, hk, rfl⟩)
    · exact .inl ⟨i, hi, rfl⟩
    · exact .inr ⟨k, hk, rfl⟩
  · rintro (⟨i, hi, rfl⟩ | ⟨k, hk, rfl⟩)
    · exact .inl ⟨i, hi, rfl⟩
    · exact .inr ⟨k, hk, rfl⟩

theorem mem_jobs_of_isReady {j : Job} (h : m.isReady j = true) : j ∈ m.jobs := by
  refine mem_jobs.mpr ?_
  cases j with
  | stream i =>
      obtain ⟨t, ht, -⟩ := (Option.any_eq_true _ _).mp h
      obtain ⟨hlt, -⟩ := List.getElem?_eq_some_iff.mp ht
      exact .inl ⟨i, hlt, rfl⟩
  | observer k =>
      obtain ⟨o, ho, -⟩ := (Option.any_eq_true _ _).mp h
      obtain ⟨hlt, -⟩ := List.getElem?_eq_some_iff.mp ho
      exact .inr ⟨k, hlt, rfl⟩

theorem isSettled_iff : m.isSettled = true ↔ ∀ j, m.isReady j = false := by
  simp only [isSettled, List.all_eq_true, Bool.not_eq_true']
  constructor
  · intro h j
    by_contra hready
    have hready : m.isReady j = true := by simpa using hready
    rw [h j (mem_jobs_of_isReady hready)] at hready
    cases hready
  · exact fun h j _ => h j

theorem nodup_jobs (m : Monitor) : m.jobs.Nodup := by
  refine List.Nodup.append ?_ ?_ ?_
  · exact List.nodup_range.map fun i j h => Job.stream.inj h
  · exact List.nodup_range.map fun i j h => Job.observer.inj h
  · intro j hstream hobserver
    obtain ⟨i, -, rfl⟩ := List.mem_map.mp hstream
    obtain ⟨k, -, h⟩ := List.mem_map.mp hobserver
    cases h

/-! ### The number of runs -/

theorem length_observers_run (m : Monitor) (j : Job) :
    (m.run j).observers.length = m.observers.length := by
  cases j with
  | stream i => exact congrArg List.length (m.observers_run_stream i)
  | observer k =>
      exact length_observers_runObserver { m with queue := m.queue.erase (.observer k) } k

/-- The stream tasks that are ready. -/
def readyStreams (m : Monitor) : Finset Nat :=
  (Finset.range m.tasks.length).filter fun i => m.isReady (.stream i) = true

/-- The observers that are ready. -/
def readyObservers (m : Monitor) : Finset Nat :=
  (Finset.range m.observers.length).filter fun k => m.isReady (.observer k) = true

/-- How many runs are possible at most: each stream task that is ready runs once, and each observer
once between two of them. -/
def potential (m : Monitor) : Nat :=
  m.readyStreams.card * (m.observers.length + 1) + m.readyObservers.card

theorem card_readyObservers_le (m : Monitor) : m.readyObservers.card ≤ m.observers.length := by
  have h := Finset.card_filter_le (Finset.range m.observers.length)
    fun k => m.isReady (.observer k) = true
  simpa [readyObservers] using h

theorem potential_lt_settleBound (m : Monitor) : m.potential < m.settleBound := by
  have hstreams : m.readyStreams.card ≤ m.tasks.length := by
    have h := Finset.card_filter_le (Finset.range m.tasks.length)
      fun i => m.isReady (.stream i) = true
    simpa [readyStreams] using h
  have hobservers := m.card_readyObservers_le
  have hmul := Nat.mul_le_mul_right (m.observers.length + 1) hstreams
  unfold potential settleBound
  rw [Nat.add_mul, Nat.one_mul]
  omega

theorem mem_readyStreams {i : Nat} : i ∈ m.readyStreams ↔ m.isReady (.stream i) = true := by
  refine ⟨fun h => (Finset.mem_filter.mp h).2, fun h => ?_⟩
  obtain ⟨t, ht, -⟩ := (Option.any_eq_true _ _).mp h
  obtain ⟨hlt, -⟩ := List.getElem?_eq_some_iff.mp ht
  exact Finset.mem_filter.mpr ⟨Finset.mem_range.mpr hlt, h⟩

theorem mem_readyObservers {k : Nat} :
    k ∈ m.readyObservers ↔ m.isReady (.observer k) = true := by
  refine ⟨fun h => (Finset.mem_filter.mp h).2, fun h => ?_⟩
  obtain ⟨o, ho, -⟩ := (Option.any_eq_true _ _).mp h
  obtain ⟨hlt, -⟩ := List.getElem?_eq_some_iff.mp ho
  exact Finset.mem_filter.mpr ⟨Finset.mem_range.mpr hlt, h⟩

/-- After the run of a stream task one is ready less. -/
theorem readyStreams_run_stream (hw : m.Wired) (hm : m.Lined) (i : Nat) :
    (m.run (.stream i)).readyStreams = m.readyStreams.erase i := by
  ext l
  rw [Finset.mem_erase, mem_readyStreams, mem_readyStreams]
  by_cases hli : l = i
  · subst hli
    simp [not_ready_run hm (.stream l)]
  · rw [ready_stream_run hw fun h => hli (Job.stream.inj h).symm]
    simp [hli]

theorem readyStreams_run_observer (hw : m.Wired) (k : Nat) :
    (m.run (.observer k)).readyStreams = m.readyStreams := by
  ext l
  have hother : Job.observer k ≠ .stream l := nofun
  rw [mem_readyStreams, mem_readyStreams, ready_stream_run hw hother]

theorem readyObservers_run_observer (hm : m.Lined) (k : Nat) :
    (m.run (.observer k)).readyObservers = m.readyObservers.erase k := by
  ext l
  rw [Finset.mem_erase, mem_readyObservers, mem_readyObservers]
  by_cases hlk : l = k
  · subst hlk
    simp [not_ready_run hm (.observer l)]
  · rw [ready_observer_run_observer hm (Ne.symm hlk)]
    simp [hlk]

/-- A run uses up potential: that of a stream task may make all observers ready, but then one stream
task less is. -/
theorem potential_run_lt (hw : m.Wired) (hm : m.Lined) {j : Job} (hready : m.isReady j = true) :
    (m.run j).potential < m.potential := by
  have hobservers := m.length_observers_run j
  unfold potential
  rw [hobservers]
  cases j with
  | stream i =>
      have hfewer : (m.run (.stream i)).readyStreams.card + 1 = m.readyStreams.card := by
        rw [readyStreams_run_stream hw hm, Finset.card_erase_add_one (mem_readyStreams.mpr hready)]
      have hrest := (m.run (.stream i)).card_readyObservers_le
      rw [hobservers] at hrest
      rw [← hfewer, Nat.add_mul, Nat.one_mul]
      omega
  | observer k =>
      have hfewer : (m.run (.observer k)).readyObservers.card < m.readyObservers.card := by
        rw [readyObservers_run_observer hm]
        exact Finset.card_erase_lt_of_mem (mem_readyObservers.mpr hready)
      rw [readyStreams_run_observer hw]
      omega

/-- Every schedule ends. -/
theorem Schedule.length_le (hw : m.Wired) (hm : m.Lined) {js : List Job} (h : m.Schedule js) :
    js.length ≤ m.potential := by
  induction js generalizing m with
  | nil => exact Nat.zero_le _
  | cons j js ih =>
      obtain ⟨hready, hrest⟩ := h
      have hstep : m.Step (m.run j) := .run m j
      have hlater := ih (hw.step hstep) (hm.step hstep) hrest
      have hlt := potential_run_lt hw hm hready
      rw [List.length_cons]
      omega

end Monitor

end BrokerMonitor
