import Mathlib.Algebra.BigOperators.Fin
import BrokerMonitor.Proofs.Delivery.Contents
import BrokerMonitor.Proofs.Listing.Agreement
import BrokerMonitor.Proofs.Outside
import BrokerMonitor.Proofs.Schedule.Ready
/-!
# Conservation of messages

Any number of tasks may write to one slot: the monitor's own task, and clients over whatever handles
were kept. `Session.intake` lists the messages that get into a slot in a run of actions, each with
the place of the task that has put it there, and `Session.intakeSince` those that got there since
the slot was last emptied. Each task keeps its own count, and a slot counts what it is given; the
three agree in every state (`Conserves`).
-/

namespace BrokerMonitor

namespace Reading

variable {r : Resource}

/-- A task that comes to an end while it reads gives its own count as the outcome's. -/
theorem messages_of_ending {fresh closed : Bool} {accepted : Nat} {items : List r.Item}
    {outcome : Outcome} (h : ending fresh closed accepted items = some outcome) :
    outcome.messages = accepted + (takes fresh items).length := by
  have htakes : takes fresh ([] : List r.Item) = [] := by cases fresh <;> rfl
  induction items generalizing accepted with
  | nil =>
      cases closed with
      | false => cases h
      | true =>
          obtain rfl := Option.some.inj h
          rw [htakes]
          rfl
  | cons item rest ih =>
      cases item with
      | error e =>
          obtain rfl := Option.some.inj h
          cases fresh <;> rfl
      | ok m =>
          cases fresh with
          | false =>
              obtain rfl := Option.some.inj h
              rfl
          | true =>
              have hrest : outcome.messages = accepted + 1 + (takes true rest).length := ih h
              have hcons : takes true (.ok m :: rest) = m :: takes true rest := rfl
              rw [hrest, hcons, List.length_cons]
              omega

end Reading

namespace StreamTask

theorem outcome?_eq_some_iff {t : StreamTask} {outcome : Outcome} :
    t.outcome? = some outcome ↔ t.phase = .ended (some outcome) := by
  unfold outcome?
  cases t.phase <;> simp

/-- An outcome gives the task's count, and a task that has not started has counted nothing. -/
structure Counts (t : StreamTask) : Prop where
  spawned : t.phase = .spawned → t.accepted = 0
  ended : ∀ outcome, t.phase = .ended (some outcome) → outcome.messages = t.accepted

theorem IsNew.counts {t : StreamTask} (h : t.IsNew) : t.Counts where
  spawned _ := h.accepted
  ended outcome hphase := by
    rw [h.spawned] at hphase
    cases hphase

/-- It depends on the phase and the count alone. -/
theorem Counts.congr {t u : StreamTask} (h : t.Counts) (haccepted : t.accepted = u.accepted)
    (hphase : t.phase = u.phase) : u.Counts := by
  constructor
  · exact fun hspawned => haccepted ▸ h.spawned (hphase.trans hspawned)
  · exact fun outcome hended => haccepted ▸ h.ended outcome (hphase.trans hended)

/-- How a task that goes on ends, its outcome gives what it had counted before and what it has taken
now. -/
theorem messages_of_goOn {t : StreamTask} {fresh : Bool} {feed : Option (Feed t.resource)}
    {outcome : Outcome} (hreading : t.hasEnded = false)
    (h : (t.goOn fresh feed).phase = .ended (some outcome)) :
    outcome.messages = t.accepted + (t.goOn fresh feed).messages.length := by
  have hnot : t.phase ≠ .ended (some outcome) := by
    intro hphase
    rw [hasEnded, hphase] at hreading
    cases hreading
  revert h
  refine t.goOn_elim ?_ ?_ ?_ ?_
  · intro _ h
    cases h
    rfl
  · exact fun _ _ h => absurd h hnot
  · exact fun _ _ _ _ _ h => absurd h hnot
  · intro f ended _ _ hending h
    cases h
    exact Reading.messages_of_ending hending

end StreamTask

namespace Monitor

variable {m m' : Monitor} {i : Nat} {t : StreamTask} {r : Resource}

/-- A turn keeps the count right. -/
theorem counts_turn (h : t.Counts) (m : Monitor) :
    (t.progress (m.turn t).said (m.turn t).messages.length (m.turn t).phase).Counts := by
  refine ⟨fun hspawned => absurd hspawned (m.phase_turn_ne_spawned t), ?_⟩
  intro outcome
  show (m.turn t).phase = .ended (some outcome) →
    outcome.messages = t.accepted + (m.turn t).messages.length
  unfold turn
  refine StreamTask.turn_elim ?_ ?_ ?_ ?_ ?_
  · exact fun _ hphase => h.ended outcome hphase
  · exact fun _ _ hphase => nomatch hphase
  · intro hspawned _ _ hphase
    cases hphase
    exact (h.spawned hspawned).symm
  · intro handle _ _ _ hphase
    exact StreamTask.messages_of_goOn (t := { t with phase := .reading (m.reach t) }) rfl hphase
  · intro held hheld _ hphase
    exact StreamTask.messages_of_goOn (StreamTask.hasEnded_of_reading hheld) hphase

/-! ### What gets into a slot -/

/-- The messages that the run of a job puts into the slot of `r`, each with the place of the task
that does. -/
def intake (m : Monitor) (r : Resource) : Job → List (Nat × r.Message)
  | .observer _ => []
  | .stream i =>
    match m.tasks[i]? with
    | some t => if h : t.resource = r then (h ▸ (m.turn t).messages).map (i, ·) else []
    | none => []

/-- The messages that get into the slot of `r` while jobs are run one after the other. -/
def intakeAll (m : Monitor) (r : Resource) : List Job → List (Nat × r.Message)
  | [] => []
  | j :: js => m.intake r j ++ (m.run j).intakeAll r js

theorem intake_of_none (ht : m.tasks[i]? = none) : m.intake r (.stream i) = [] := by
  simp [intake, ht]

theorem intake_self (ht : m.tasks[i]? = some t) :
    m.intake t.resource (.stream i) = (m.turn t).messages.map (i, ·) := by
  simp [intake, ht]

theorem intake_of_ne (ht : m.tasks[i]? = some t) (hr : t.resource ≠ r) :
    m.intake r (.stream i) = [] := by
  simp [intake, ht, hr]

/-- How many of the messages are from the task at a place. -/
def share (taken : List (Nat × r.Message)) (i : Nat) : Nat := (taken.map (·.1)).count i

theorem share_append (first later : List (Nat × r.Message)) (i : Nat) :
    share (first ++ later) i = share first i + share later i := by
  simp [share]

theorem share_map_self (ms : List r.Message) (i : Nat) :
    share (ms.map (i, ·)) i = ms.length := by
  simp [share, List.map_map, Function.comp_def]

theorem share_map_of_ne (ms : List r.Message) {i j : Nat} (h : j ≠ i) :
    share (ms.map (i, ·)) j = 0 := by
  simp [share, List.map_map, Function.comp_def, List.count_replicate, Ne.symm h]

/-- The shares of all tasks make up the whole. -/
theorem length_eq_sum_share (taken : List (Nat × r.Message)) (f : StreamTask → Nat)
    (ts : List StreamTask) (hplaces : ∀ e ∈ taken, e.1 < ts.length)
    (hshare : ∀ i t, ts[i]? = some t → share taken i = f t) :
    taken.length = (ts.map f).sum := by
  have hplaces' : ∀ i ∈ (taken.map (·.1) : Multiset Nat), i ∈ Finset.range ts.length := by
    intro i hi
    obtain ⟨e, he, rfl⟩ := List.mem_map.mp (Multiset.mem_coe.mp hi)
    exact Finset.mem_range.mpr (hplaces e he)
  have hparts := Multiset.sum_count_eq_card hplaces'
  rw [Multiset.coe_card, List.length_map] at hparts
  rw [← hparts, Finset.sum_range, ← Fin.sum_univ_fun_getElem]
  refine Finset.sum_congr rfl fun i _ => ?_
  rw [Multiset.coe_count]
  exact hshare i ts[i] (List.getElem?_eq_getElem i.isLt)

theorem share_eq_zero {taken : List (Nat × r.Message)} (h : ∀ e ∈ taken, e.1 ≠ i) :
    share taken i = 0 := by
  refine List.count_eq_zero.mpr fun hmem => ?_
  obtain ⟨e, he, hplace⟩ := List.mem_map.mp hmem
  exact h e he hplace

/-! ### Conservation -/

/-- `taken` is what has got into the slot of `r`, and `since` is what has since the slot was last
emptied. -/
structure Conserves (m : Monitor) (r : Resource) (taken since : List (Nat × r.Message)) : Prop where
  slot : m.snapshot r = .after m.generation (since.map (·.2))
  recent : since <:+ taken
  places : ∀ e ∈ taken, e.1 < m.tasks.length
  total : ∀ (i : Nat) (t : StreamTask), m.tasks[i]? = some t →
    share taken i = if t.resource = r then t.accepted else 0
  current : ∀ (i : Nat) (t : StreamTask), m.tasks[i]? = some t →
    share since i = if t.resource = r ∧ t.generation = m.generation then t.accepted else 0
  /-- Nobody has put anything into a slot for a generation that is yet to be opened. -/
  opened : ∀ t ∈ m.tasks, 0 < t.accepted → t.generation ≤ m.generation
  counts : ∀ t ∈ m.tasks, t.Counts

/-- A task that is there after an action that runs none was there before, or it is new. -/
theorem cases_of_outside {new : List StreamTask} (hnew : ∀ u ∈ new, u.IsNew)
    (htasks : m'.tasks.map StreamTask.core = (m.tasks ++ new).map StreamTask.core) {i : Nat}
    {u : StreamTask} (hu : m'.tasks[i]? = some u) :
    (∃ t, m.tasks[i]? = some t ∧ t.resource = u.resource ∧ t.generation = u.generation ∧
      t.accepted = u.accepted ∧ t.phase = u.phase) ∨
    m.tasks.length ≤ i ∧ u.accepted = 0 ∧ u.phase = .spawned := by
  obtain ⟨t, ht, hresource, hgeneration, haccepted, hphase⟩ :=
    StreamTask.exists_of_map_core htasks hu
  rcases Nat.lt_or_ge i m.tasks.length with hlt | hge
  · rw [List.getElem?_append_left hlt] at ht
    exact .inl ⟨t, ht, hresource, hgeneration, haccepted, hphase⟩
  · rw [List.getElem?_append_right hge] at ht
    have ht := hnew t (List.mem_of_getElem? ht)
    exact .inr ⟨hge, haccepted ▸ ht.accepted, hphase ▸ ht.spawned⟩

namespace Conserves

variable {taken since : List (Nat × r.Message)}

theorem initial (rate : Option UInt32) (r : Resource) :
    (Monitor.initial rate).Conserves r [] [] where
  slot := by cases r <;> rfl
  recent := List.suffix_rfl
  places _ he := nomatch he
  total _ _ ht := nomatch ht
  current _ _ ht := nomatch ht
  opened _ ht := nomatch ht
  counts _ ht := nomatch ht

/-- A place that was free had no share. -/
theorem share_eq_zero_of_le (h : m.Conserves r taken since) {i : Nat} (hi : m.tasks.length ≤ i) :
    share taken i = 0 ∧ share since i = 0 := by
  have hfree : ∀ e ∈ taken, e.1 ≠ i :=
    fun e he => Nat.ne_of_lt (Nat.lt_of_lt_of_le (h.places e he) hi)
  exact ⟨share_eq_zero hfree, share_eq_zero fun e he => hfree e (h.recent.subset he)⟩

section Outside

variable {new : List StreamTask} (hnew : ∀ u ∈ new, u.IsNew)
  (htasks : m'.tasks.map StreamTask.core = (m.tasks ++ new).map StreamTask.core)

include htasks

theorem places_of_outside (h : m.Conserves r taken since) :
    ∀ e ∈ taken, e.1 < m'.tasks.length := by
  have hlength := congrArg List.length htasks
  simp only [List.length_map, List.length_append] at hlength
  intro e he
  have := h.places e he
  omega

include hnew

theorem total_of_outside (h : m.Conserves r taken since) (i : Nat) (u : StreamTask)
    (hu : m'.tasks[i]? = some u) : share taken i = if u.resource = r then u.accepted else 0 := by
  rcases cases_of_outside hnew htasks hu with ⟨t, ht, hresource, -, haccepted, -⟩ | ⟨hi, hnone, -⟩
  · rw [← hresource, ← haccepted]
    exact h.total i t ht
  · rw [(h.share_eq_zero_of_le hi).1, hnone, ite_self]

theorem counts_of_outside (h : m.Conserves r taken since) : ∀ u ∈ m'.tasks, u.Counts := by
  intro u hu
  obtain ⟨i, hi⟩ := List.mem_iff_getElem?.mp hu
  rcases cases_of_outside hnew htasks hi with
    ⟨t, ht, -, -, haccepted, hphase⟩ | ⟨-, hnone, hspawned⟩
  · exact (h.counts t (List.mem_of_getElem? ht)).congr haccepted hphase
  · refine ⟨fun _ => hnone, fun outcome hended => ?_⟩
    rw [hspawned] at hended
    cases hended

theorem opened_of_outside (h : m.Conserves r taken since) :
    ∀ u ∈ m'.tasks, 0 < u.accepted → u.generation ≤ m.generation := by
  intro u hu hsome
  obtain ⟨i, hi⟩ := List.mem_iff_getElem?.mp hu
  rcases cases_of_outside hnew htasks hi with ⟨t, ht, -, hgeneration, haccepted, -⟩ | ⟨-, hnone, -⟩
  · exact hgeneration ▸ h.opened t (List.mem_of_getElem? ht) (haccepted ▸ hsome)
  · omega

/-- The slots and the generation stay. -/
theorem outside (h : m.Conserves r taken since) (hstore : m'.store = m.store)
    (hgeneration : m'.generation = m.generation) : m'.Conserves r taken since where
  slot := by
    rw [hgeneration, snapshot, hstore]
    exact h.slot
  recent := h.recent
  places := h.places_of_outside htasks
  total := h.total_of_outside hnew htasks
  current := by
    intro i u hu
    rcases cases_of_outside hnew htasks hu with
      ⟨t, ht, hresource, hsame, haccepted, -⟩ | ⟨hi, hnone, -⟩
    · rw [← hresource, ← hsame, ← haccepted, hgeneration]
      exact h.current i t ht
    · rw [(h.share_eq_zero_of_le hi).2, hnone, ite_self]
  opened := by
    rw [hgeneration]
    exact h.opened_of_outside hnew htasks
  counts := h.counts_of_outside hnew htasks

/-- A new generation starts with empty slots, and nobody has put anything there for it. -/
theorem reset (h : m.Conserves r taken since) {g : Generation} (hg : m.generation.next? = some g)
    (hstore : m'.store = m.store.reset g) (hgeneration : m'.generation = g) :
    m'.Conserves r taken [] where
  slot := by
    rw [hgeneration, snapshot, hstore]
    cases r <;> rfl
  recent := List.nil_suffix
  places := h.places_of_outside htasks
  total := h.total_of_outside hnew htasks
  current := by
    intro i u hu
    have hnone : u.generation = m'.generation → u.accepted = 0 := by
      intro hnow
      by_contra hsome
      have hle : u.generation.toNat ≤ m.generation.toNat :=
        h.opened_of_outside hnew htasks u (List.mem_of_getElem? hu) (Nat.pos_of_ne_zero hsome)
      have hnext := Generation.toNat_of_next? hg
      rw [hnow, hgeneration] at hle
      omega
    show 0 = _
    split
    · next hnow => exact (hnone hnow.2).symm
    · rfl
  opened := by
    intro u hu hsome
    have hle : u.generation.toNat ≤ m.generation.toNat :=
      h.opened_of_outside hnew htasks u hu hsome
    have hnext := Generation.toNat_of_next? hg
    show u.generation.toNat ≤ m'.generation.toNat
    rw [hgeneration]
    omega
  counts := h.counts_of_outside hnew htasks

end Outside

/-- A task gets messages into its slot only while its generation is the current one. -/
theorem generation_of_messages (hm : m.Lockstep) (h : (m.turn t).messages ≠ []) :
    t.generation = m.generation := by
  have hfresh := (m.possible_turn t).fresh h
  rw [← hfresh]
  exact hm.snapshot t.resource

theorem share_intake (ht : m.tasks[i]? = some t) (j : Nat) :
    share (m.intake r (.stream i)) j =
      if j = i ∧ t.resource = r then (m.turn t).messages.length else 0 := by
  by_cases hr : t.resource = r
  · subst hr
    rw [intake_self ht]
    by_cases hj : j = i
    · subst hj
      rw [share_map_self, if_pos ⟨rfl, rfl⟩]
    · rw [share_map_of_ne _ hj, if_neg fun hboth => hj hboth.1]
  · rw [intake_of_ne ht hr, if_neg fun hboth => hr hboth.2]
    rfl

section Turn

variable (h : m.Conserves r taken since) (hm : m.Lockstep) (ht : m.tasks[i]? = some t)

include h ht

/-- The slot takes over what the turn takes. -/
theorem slot_turn (hm : m.Lockstep) :
    (m.progress i t (m.progressOf (m.reach t) (m.turn t))).snapshot r =
      .after m.generation ((since ++ m.intake r (.stream i)).map (·.2)) := by
  by_cases hr : t.resource = r
  · subst hr
    rw [snapshot_progress_self, intake_self ht, List.map_append, List.map_map]
    have hplain : (m.turn t).messages.map ((·.2) ∘ (i, ·)) = (m.turn t).messages := by simp
    rw [hplain]
    by_cases hnone : (m.turn t).messages = []
    · simpa [progressOf, hnone, snapshot] using h.slot
    · have hnow := generation_of_messages hm hnone
      rw [hnow]
      exact Slot.value_deliver h.slot _
  · rw [snapshot_progress_of_ne (Ne.symm hr), intake_of_ne ht hr, List.append_nil]
    exact h.slot

theorem places_turn : ∀ e ∈ taken ++ m.intake r (.stream i), e.1 < m.tasks.length := by
  intro e he
  rcases List.mem_append.mp he with hold | hnew
  · exact h.places e hold
  · by_cases hr : t.resource = r
    · subst hr
      rw [intake_self ht] at hnew
      obtain ⟨x, -, rfl⟩ := List.mem_map.mp hnew
      exact (List.getElem?_eq_some_iff.mp ht).1
    · rw [intake_of_ne ht hr] at hnew
      cases hnew

/-- The task's own count goes up by as much. -/
theorem total_turn (p : Progress t.resource) (hp : p.messages = (m.turn t).messages) (j : Nat)
    (u : StreamTask) (hu : (m.progress i t p).tasks[j]? = some u) :
    share (taken ++ m.intake r (.stream i)) j = if u.resource = r then u.accepted else 0 := by
  rw [share_append, share_intake ht]
  rcases cases_of_getElem?_progress ht hu with ⟨rfl, rfl⟩ | ⟨hj, hold⟩
  · rw [h.total j t ht, ← hp]
    show _ = if t.resource = r then t.accepted + p.messages.length else 0
    by_cases hr : t.resource = r <;> simp [hr]
  · rw [if_neg fun hboth => hj hboth.1]
    exact h.total j u hold

theorem current_turn (hm : m.Lockstep) (p : Progress t.resource)
    (hp : p.messages = (m.turn t).messages) (j : Nat) (u : StreamTask)
    (hu : (m.progress i t p).tasks[j]? = some u) :
    share (since ++ m.intake r (.stream i)) j =
      if u.resource = r ∧ u.generation = m.generation then u.accepted else 0 := by
  rw [share_append, share_intake ht]
  rcases cases_of_getElem?_progress ht hu with ⟨rfl, rfl⟩ | ⟨hj, hold⟩
  · rw [h.current j t ht, StreamTask.generation_progress, ← hp]
    show _ = if t.resource = r ∧ t.generation = m.generation then
      t.accepted + p.messages.length else 0
    by_cases hnow : t.generation = m.generation
    · by_cases hr : t.resource = r <;> simp [hr, hnow]
    · -- A task of another generation has taken nothing.
      have hnone : p.messages = [] := by
        by_contra hsome
        exact hnow (generation_of_messages hm (hp ▸ hsome))
      simp [hnow, hnone]
  · rw [if_neg fun hboth => hj hboth.1]
    exact h.current j u hold

theorem opened_turn (hm : m.Lockstep) (p : Progress t.resource)
    (hp : p.messages = (m.turn t).messages) (u : StreamTask)
    (hu : u ∈ (m.progress i t p).tasks) (hsome : 0 < u.accepted) :
    u.generation ≤ m.generation := by
  rcases List.mem_or_eq_of_mem_set hu with hold | rfl
  · exact h.opened u hold hsome
  · rw [StreamTask.generation_progress]
    by_cases hnone : p.messages = []
    · have hbefore : 0 < t.accepted + p.messages.length := hsome
      rw [hnone] at hbefore
      exact h.opened t (List.mem_of_getElem? ht) hbefore
    · rw [generation_of_messages hm (hp ▸ hnone)]
      exact Nat.le_refl _

end Turn

/-- The run of a task adds what its turn takes. -/
theorem runStream (h : m.Conserves r taken since) (hm : m.Lockstep) (i : Nat) :
    (m.runStream i).Conserves r (taken ++ m.intake r (.stream i))
      (since ++ m.intake r (.stream i)) := by
  refine m.runStream_elim i ?_ fun t ht => ?_
  · intro hnone
    rw [intake_of_none hnone, List.append_nil, List.append_nil]
    exact h
  · constructor
    · exact h.slot_turn ht hm
    · obtain ⟨earlier, rfl⟩ := h.recent
      exact ⟨earlier, (List.append_assoc _ _ _).symm⟩
    · intro e he
      have hplace := h.places_turn ht e he
      rwa [progress, List.length_set]
    · exact h.total_turn ht _ rfl
    · exact h.current_turn ht hm _ rfl
    · exact h.opened_turn ht hm _ rfl
    · intro u hu
      rcases List.mem_or_eq_of_mem_set hu with hold | rfl
      · exact h.counts u hold
      · exact counts_turn (h.counts t (List.mem_of_getElem? ht)) m

/-- The queue does not matter, nor do the board and the observers. -/
theorem run (h : m.Conserves r taken since) (hm : m.Lockstep) (j : Job) :
    (m.run j).Conserves r (taken ++ m.intake r j) (since ++ m.intake r j) := by
  cases j with
  | stream i =>
      obtain ⟨queue, hrun⟩ := m.exists_run_stream_eq i
      rw [hrun]
      have h' := h.runStream hm i
      exact ⟨h'.slot, h'.recent, h'.places, h'.total, h'.current, h'.opened, h'.counts⟩
  | observer k =>
      obtain ⟨board, observers, queue, hrun, -⟩ := m.exists_run_observer_eq k
      have hnothing : m.intake r (.observer k) = [] := rfl
      rw [hrun, hnothing, List.append_nil, List.append_nil]
      exact ⟨h.slot, h.recent, h.places, h.total, h.current, h.opened, h.counts⟩

theorem runAll (h : m.Conserves r taken since) (hm : m.Lockstep) (js : List Job) :
    (m.runAll js).Conserves r (taken ++ m.intakeAll r js) (since ++ m.intakeAll r js) := by
  induction js generalizing m taken since with
  | nil => simpa [intakeAll] using h
  | cons j js ih =>
      have hrest := ih (h.run hm j) (hm.step (.run m j))
      rwa [List.append_assoc, List.append_assoc] at hrest

end Conserves

end Monitor

namespace Session

/-- The messages that a run of actions puts into the slot of `r`, each with the place of the task
that has put it there, in the order in which the slot has accepted them. -/
def intake (s : Session) (r : Resource) : List Action → List (Nat × r.Message)
  | [] => []
  | a :: rest => s.monitor.intakeAll r (s.jobs a) ++ (s.act a).1.intake r rest

/-- The same, but only since the slot was last emptied: a run goes on after `since`, and starts
afresh where an action opens a generation. -/
def intakeSince (s : Session) (r : Resource) (since : List (Nat × r.Message)) :
    List Action → List (Nat × r.Message)
  | [] => since
  | a :: rest =>
    let kept := if (s.act a).1.monitor.generation = s.monitor.generation then since else []
    (s.act a).1.intakeSince r (kept ++ s.monitor.intakeAll r (s.jobs a)) rest

variable {s : Session} {r : Resource} {taken since : List (Nat × r.Message)}

theorem conserves_act (h : s.monitor.Conserves r taken since) (hm : s.monitor.Lockstep)
    (a : Action) :
    (s.act a).1.monitor.Conserves r (taken ++ s.monitor.intakeAll r (s.jobs a))
      ((if (s.act a).1.monitor.generation = s.monitor.generation then since else []) ++
        s.monitor.intakeAll r (s.jobs a)) := by
  cases ha : a.runsTasks with
  | true =>
      have hsame : (s.runTasks (s.jobs a)).monitor.generation = s.monitor.generation :=
        congrArg Prod.fst (s.monitor.epoch_runAll (s.jobs a))
      rw [s.act_of_runsTasks ha, if_pos hsame]
      exact h.runAll hm _
  | false =>
      obtain ⟨new, hnew, htasks⟩ := s.exists_tasks_act ha
      rw [s.jobs_eq_nil ha]
      simp only [Monitor.intakeAll, List.append_nil]
      rcases s.store_act ha with ⟨hstore, hgeneration⟩ | ⟨g, hg, hgeneration, hstore⟩
      · rw [if_pos hgeneration]
        exact h.outside hnew htasks hstore hgeneration
      · have hnext := Generation.toNat_of_next? hg
        rw [if_neg]
        · exact h.reset hnew htasks hg hstore hgeneration
        · intro hsame
          rw [← hgeneration, hsame] at hnext
          omega

theorem conserves_actAll (h : s.monitor.Conserves r taken since) (hm : s.monitor.Lockstep)
    (run : List Action) :
    (s.actAll run).monitor.Conserves r (taken ++ s.intake r run) (s.intakeSince r since run) := by
  induction run generalizing s taken since with
  | nil => simpa [intake, intakeSince, actAll] using h
  | cons a rest ih =>
      have hrest := ih (conserves_act h hm a) (hm.leads (s.monitor_leads_act a))
      rwa [List.append_assoc] at hrest

/-- The messages in a slot are conserved. Take any run of a session, of any actions in any order,
with any number of clients over any kept handles; it may run single tasks, so that it can stop
between any two runs of tasks. `taken` lists the messages that the slot of a resource has accepted
in the run, in this order and each with the place of its task, and `since` those that it has
accepted since a generation was last opened.

The slot's sequence is the sum of what the tasks of its generation have counted, the monitor's own
and clients, and so it is the number of messages in `since`. Its records are the conversion of the
last of them. All of them are from tasks of the slot's generation. What a task has counted are all
the messages in `taken` that are from it, and if it is of the slot's generation they are all in
`since`. When a task has ended with an outcome, this gives the same number. -/
theorem messages_are_conserved (rate : Option UInt32) (run : List Action) (r : Resource) :
    let m := ((start rate).actAll run).monitor
    let snapshot := m.snapshot r
    let taken := (start rate).intake r run
    let since := (start rate).intakeSince r [] run
    snapshot.sequence =
      ((m.tasks.filter fun t => t.resource = r ∧ t.generation = snapshot.generation).map
        (·.accepted)).sum ∧
    snapshot.sequence = since.length ∧
    snapshot.records = ((since.map (·.2)).getLast?.map r.listing).getD [] ∧
    since <:+ taken ∧
    (∀ e ∈ since, ∃ t, m.tasks[e.1]? = some t ∧ t.resource = r ∧
      t.generation = snapshot.generation) ∧
    ∀ i t, m.tasks[i]? = some t → t.resource = r →
      Monitor.share taken i = t.accepted ∧
      Monitor.share since i = (if t.generation = snapshot.generation then t.accepted else 0) ∧
      ∀ outcome, t.outcome? = some outcome → outcome.messages = t.accepted := by
  intro m snapshot taken since
  have h : m.Conserves r ([] ++ taken) since :=
    conserves_actAll (.initial rate r) (.initial rate) run
  rw [List.nil_append] at h
  have hslot : snapshot = .after m.generation (since.map (·.2)) := h.slot
  have hgeneration : snapshot.generation = m.generation := congrArg Snapshot.generation hslot
  have hlength : snapshot.sequence = since.length := by
    rw [hslot]
    exact List.length_map _
  have hplaces : ∀ e ∈ since, e.1 < m.tasks.length := fun e he => h.places e (h.recent.subset he)
  refine ⟨?_, hlength, ?_, h.recent, ?_, ?_⟩
  · rw [hlength, hgeneration, Monitor.length_eq_sum_share since _ m.tasks hplaces h.current,
      List.sum_map_ite]
    simp
  · rw [hslot]
    rfl
  · intro e he
    refine ⟨_, List.getElem?_eq_getElem (hplaces e he), ?_⟩
    have hshare := h.current e.1 _ (List.getElem?_eq_getElem (hplaces e he))
    have hpos : 0 < Monitor.share since e.1 := List.count_pos_iff.mpr (List.mem_map_of_mem he)
    rw [hshare] at hpos
    split at hpos
    · next hboth => exact ⟨hboth.1, hgeneration ▸ hboth.2⟩
    · cases hpos
  · intro i t ht hr
    have htotal := h.total i t ht
    have hcurrent := h.current i t ht
    rw [if_pos hr] at htotal
    refine ⟨htotal, ?_, ?_⟩
    · rw [hcurrent, hgeneration]
      simp only [hr, true_and]
    · intro outcome houtcome
      apply (h.counts t (List.mem_of_getElem? ht)).ended outcome
      exact StreamTask.outcome?_eq_some_iff.mp houtcome

/-- The monitor's own task and a client share a slot; after another connect only the new own task
writes there, while the client still reads its feed. -/
example :
    let shared : List Action := [
      .connection (.connect "first" "http://[::1]"),
      .client (.startOver "beside" .channels "first"),
      .broker (.offer "own" "[::1]" .channels), .run (.stream 0),
      .broker (.offer "other" "[::1]" .channels), .broker (.send "own" .channels []),
      .broker (.send "other" .channels []), .settle, .broker (.send "other" .channels []), .settle]
    let renewed : List Action := shared ++ [
      .broker (.offer "new" "[::1]" .channels), .broker (.send "new" .channels []),
      .broker (.send "other" .channels []), .connection (.connect "second" "http://[::1]"), .settle]
    ((start none).intakeSince .channels [] shared).map (·.1) = [2, 0, 2] ∧
      ((start none).intakeSince .channels [] renewed).map (·.1) = [3] := by
  decide +kernel

end Session

end BrokerMonitor
