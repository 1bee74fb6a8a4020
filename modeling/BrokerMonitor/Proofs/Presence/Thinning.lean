import Mathlib.Data.List.Sort
import BrokerMonitor.Proofs.Schedule.Queue
/-!
# A monitor with fewer observers

Let some of a monitor's observers never have been there. What differs is the observers, their lines
on the board and their places in the queue, and nothing else (`Monitor.Thins`). Whatever is done to
both monitors without regard to who observes leaves them so, and so does what is asked of observers
that are in both, or of one that is in the larger monitor only.
-/

namespace BrokerMonitor

/-! ### Places -/

section Lists

variable {α β : Type}

theorem getElem?_concat_eq_some_iff {l : List α} {a b : α} {i : Nat} :
    (l ++ [a])[i]? = some b ↔ l[i]? = some b ∨ i = l.length ∧ b = a := by
  rcases Nat.lt_trichotomy i l.length with hlt | rfl | hgt
  · rw [List.getElem?_append_left hlt]
    exact ⟨.inl, fun h => h.resolve_right fun hnew => absurd hnew.1 (Nat.ne_of_lt hlt)⟩
  · simp [eq_comm]
  · rw [List.getElem?_eq_none (by simp; omega), List.getElem?_eq_none (Nat.le_of_lt hgt)]
    simp
    omega

variable [DecidableEq α]

theorem filterMap_erase_of_none {f : α → Option β} {a : α} (ha : f a = none) (l : List α) :
    (l.erase a).filterMap f = l.filterMap f := by
  induction l with
  | nil => rfl
  | cons b l ih =>
      by_cases hba : b = a
      · subst hba
        rw [List.erase_cons_head, List.filterMap_cons_none ha]
      · rw [List.erase_cons_tail (by simpa using hba), List.filterMap_cons, List.filterMap_cons, ih]

theorem filterMap_erase_of_some [DecidableEq β] {f : α → Option β} {a : α} {b : β}
    (ha : f a = some b) (hf : ∀ c, f c = some b → c = a) (l : List α) :
    (l.erase a).filterMap f = (l.filterMap f).erase b := by
  induction l with
  | nil => rfl
  | cons c l ih =>
      by_cases hca : c = a
      · subst hca
        rw [List.erase_cons_head, List.filterMap_cons_some ha, List.erase_cons_head]
      · rw [List.erase_cons_tail (by simpa using hca), List.filterMap_cons, List.filterMap_cons, ih]
        cases hc : f c with
        | none => rfl
        | some d =>
            have hdb : d ≠ b := fun h => hca (hf c (h ▸ hc))
            exact (List.erase_cons_tail (by simpa using hdb)).symm

end Lists

/-- The job as it is known where the observers at `places` are the only ones, if it is there. -/
def Job.among? (places : List Nat) : Job → Option Job
  | .stream i => some (.stream i)
  | .observer k => (places.idxOf? k).map .observer

section Places

variable {places : List Nat} (hplaces : places.Pairwise (· < ·))

include hplaces

theorem idxOf?_eq_some_iff {i k : Nat} : places.idxOf? k = some i ↔ places[i]? = some k := by
  rw [List.idxOf?_eq_some_iff, List.getElem?_eq_some_iff]
  refine ⟨fun ⟨h, hk, _⟩ => ⟨h, hk⟩, fun ⟨h, hk⟩ => ⟨h, hk, fun j hj hjk => ?_⟩⟩
  have hlt := List.pairwise_iff_getElem.mp hplaces j i (by omega) h hj
  omega

/-- One more place changes nothing about the others. -/
theorem idxOf?_concat_of_ne {k l : Nat} (hmore : (places ++ [l]).Pairwise (· < ·)) (hne : k ≠ l) :
    (places ++ [l]).idxOf? k = places.idxOf? k := by
  refine Option.ext fun i => ?_
  rw [idxOf?_eq_some_iff hplaces, idxOf?_eq_some_iff hmore, getElem?_concat_eq_some_iff]
  exact or_iff_left fun hlast => hne hlast.2

theorem among?_observer_eq_some_iff {k : Nat} {j : Job} :
    (Job.observer k).among? places = some j ↔ ∃ i, places[i]? = some k ∧ j = .observer i := by
  simp only [Job.among?, Option.map_eq_some_iff, idxOf?_eq_some_iff hplaces]
  exact exists_congr fun i => and_congr_right fun _ => eq_comm

/-- No two jobs become the same. -/
theorem among?_injective {j j' l : Job} (h : j.among? places = some l)
    (h' : j'.among? places = some l) : j = j' := by
  cases j with
  | stream i =>
      obtain rfl := Option.some.inj h
      cases j' with
      | stream i' => exact (Option.some.inj h').symm
      | observer k' =>
          obtain ⟨_, -, hne⟩ := (among?_observer_eq_some_iff hplaces).mp h'
          cases hne
  | observer k =>
      obtain ⟨i, hi, rfl⟩ := (among?_observer_eq_some_iff hplaces).mp h
      cases j' with
      | stream i' => cases h'
      | observer k' =>
          obtain ⟨i', hi', heq⟩ := (among?_observer_eq_some_iff hplaces).mp h'
          obtain rfl := Job.observer.inj heq
          rw [Option.some.inj (hi.symm.trans hi')]

/-- The places are the only ones of their length. -/
theorem filterMap_idxOf?_range {n : Nat} (hn : ∀ k ∈ places, k < n) :
    (List.range n).filterMap places.idxOf? = List.range places.length := by
  apply List.Pairwise.eq_of_mem_iff (r := (· < ·))
  · refine List.Pairwise.filterMap _ (fun a b hab i hi j hj => ?_) List.pairwise_lt_range
    rw [idxOf?_eq_some_iff hplaces, List.getElem?_eq_some_iff] at hi hj
    obtain ⟨hi, rfl⟩ := hi
    obtain ⟨hj, rfl⟩ := hj
    by_contra hnot
    have hle : places[j] ≤ places[i] := by
      rcases Nat.lt_or_eq_of_le (Nat.not_lt.mp hnot) with hlt | rfl
      · exact Nat.le_of_lt (List.pairwise_iff_getElem.mp hplaces j i hj hi hlt)
      · exact Nat.le_refl _
    omega
  · exact List.pairwise_lt_range
  · intro i
    simp only [List.mem_filterMap, List.mem_range, idxOf?_eq_some_iff hplaces]
    constructor
    · rintro ⟨k, -, hk⟩
      exact (List.getElem?_eq_some_iff.mp hk).1
    · intro hi
      exact ⟨places[i], hn _ (List.getElem_mem hi), List.getElem?_eq_getElem hi⟩

end Places

/-! ### Boards -/

/-- The board with the lines at `places` alone. -/
structure StatusBoard.Thins (places : List Nat) (b b' : StatusBoard) : Prop where
  status : b'.status = b.status
  line : ∀ i k : Nat, places[i]? = some k → b'.listeners[i]? = b.listeners[k]?

namespace StatusBoard.Thins

variable {places : List Nat} {b b' : StatusBoard}

theorem publish (h : Thins places b b') (s : BrokerStatus) :
    Thins places (b.publish s) (b'.publish s) where
  status := congrArg (Cell.announce · s) h.status
  line i k hi := by
    show (b'.listeners.map (·.send s))[i]? = (b.listeners.map (·.send s))[k]?
    rw [List.getElem?_map, List.getElem?_map, h.line i k hi]

theorem report (h : Thins places b b') (r : Report) :
    Thins places (b.report r) (b'.report r) := by
  have hcurrent : b'.current = b.current := congrArg Cell.value h.status
  unfold StatusBoard.report
  rw [hcurrent]
  split
  · exact h.publish _
  · exact h

theorem reportAll (h : Thins places b b') (rs : List Report) :
    Thins places (b.reportAll rs) (b'.reportAll rs) := by
  induction rs generalizing b b' with
  | nil => exact h
  | cons r rs ih => exact ih (h.report r)

theorem inbox_eq (h : Thins places b b') {i k : Nat} (hi : places[i]? = some k) :
    b'.inbox i = b.inbox k := by
  rw [StatusBoard.inbox, StatusBoard.inbox, h.line i k hi]

end StatusBoard.Thins

/-! ### Monitors -/

namespace Observer

/-- The observer, with another line. -/
def on (o : Observer) (line : Nat) : Observer := { o with line }

end Observer

/-- The monitor `n` is `m` with the observers at `places` alone. -/
structure Monitor.Thins (places : List Nat) (m n : Monitor) : Prop where
  ordered : places.Pairwise (· < ·)
  rest : ∃ board observers queue, n = { m with board, observers, queue }
  board : m.board.Thins places n.board
  present : ∀ k ∈ places, k < m.observers.length
  length : n.observers.length = places.length
  observer : ∀ i k : Nat, places[i]? = some k →
    n.observers[i]? = (m.observers[k]?).map (·.on i)
  queue : n.queue = m.queue.filterMap (·.among? places)

namespace Monitor

variable {places : List Nat} {m n m' n' : Monitor} {i k : Nat} {o : Observer}

/-- The monitor but for its observers. -/
def unobserved (m : Monitor) : Monitor :=
  { m with board := { m.board with listeners := [] }, observers := [], queue := [] }

/-- The monitor after something has been done about the observer at place `k` and its line. -/
def attend (m : Monitor) (k : Nat) (f : Listener → Listener) (g : Observer → Observer) : Monitor :=
  { m with
    board := { m.board with listeners := m.board.listeners.modify k f }
    observers := m.observers.modify k g }

/-- What is done without regard to who observes, and leaves the observers and the queue as they are.
-/
def Blind (f : Monitor → Monitor) : Prop :=
  ∀ (m : Monitor) (board : StatusBoard) (observers : List Observer) (queue : List Job),
    f { m with board, observers, queue } = { f m with board, observers, queue }

namespace Blind

variable {f : Monitor → Monitor} (hf : Blind f) (m : Monitor)

include hf

theorem eq : f m = { f m with board := m.board, observers := m.observers, queue := m.queue } :=
  hf m m.board m.observers m.queue

theorem board : (f m).board = m.board := by rw [hf.eq m]

theorem observers : (f m).observers = m.observers := by rw [hf.eq m]

theorem queue : (f m).queue = m.queue := by rw [hf.eq m]

end Blind

theorem Lined.of_blind (h : m.Lined) {f : Monitor → Monitor} (hf : Blind f) : (f m).Lined := by
  constructor
  · rw [hf.observers m]
    exact h.line
  · rw [hf.board m, hf.observers m]
    exact h.length

namespace Thins

theorem initial (rate : Option UInt32) : (initial rate).Thins [] (initial rate) where
  ordered := .nil
  rest := ⟨_, _, _, rfl⟩
  board := ⟨rfl, by simp⟩
  present := by simp
  length := rfl
  observer := by simp
  queue := rfl

/-- Everything but the observers is the same. -/
theorem unobserved_eq (h : m.Thins places n) : n.unobserved = m.unobserved := by
  have hstatus := h.board.status
  obtain ⟨board, observers, queue, rfl⟩ := h.rest
  have hboard : ({ board with listeners := [] } : StatusBoard) = { m.board with listeners := [] } :=
    congrArg (StatusBoard.mk · []) hstatus
  exact congrArg (fun b => { m with board := b, observers := [], queue := [] }) hboard

/-- So is whatever depends on that alone. -/
theorem same (h : m.Thins places n) {α : Sort _} (f : Monitor → α)
    (hf : ∀ m, f m.unobserved = f m) : f n = f m := by
  rw [← hf n, h.unobserved_eq, hf m]

theorem boardGone_eq (h : m.Thins places n) : n.boardGone = m.boardGone :=
  h.same Monitor.boardGone fun _ => rfl

/-- Whoever observes does not matter for what has changed. -/
theorem congr (h : m.Thins places n) (hrest : n' = { m' with
      board := n.board, observers := n.observers, queue := n.queue })
    (hboard : m'.board = m.board) (hobservers : m'.observers = m.observers)
    (hqueue : m'.queue = m.queue) : m'.Thins places n' := by
  subst hrest
  refine ⟨h.ordered, ⟨_, _, _, rfl⟩, ?_, ?_, h.length, ?_, ?_⟩
  · rw [hboard]
    exact h.board
  · rw [hobservers]
    exact h.present
  · rw [hobservers]
    exact h.observer
  · rw [hqueue]
    exact h.queue

/-! #### Readiness -/

theorem isReady_observer (h : m.Thins places n) (hm : m.Lined) (hi : places[i]? = some k) :
    n.isReady (.observer i) = m.isReady (.observer k) := by
  have hobserver := h.observer i k hi
  have hinbox := h.board.inbox_eq hi
  obtain ⟨board, observers, queue, rfl⟩ := h.rest
  cases ho : m.observers[k]? with
  | none => simp [isReady, hobserver, ho]
  | some o =>
      have hline : o.line = k := hm.line k o ho
      simp only [isReady, hobserver, ho, Option.map_some, Option.any_some, observerReady, hline]
      show (!o.finished && (o.aborted || !(board.inbox i).isEmpty || m.boardGone)) = _
      rw [hinbox]

theorem isReady_among (h : m.Thins places n) (hm : m.Lined) {j j' : Job}
    (hj : j.among? places = some j') : n.isReady j' = m.isReady j := by
  cases j with
  | stream i =>
      obtain rfl := Option.some.inj hj
      obtain ⟨board, observers, queue, rfl⟩ := h.rest
      rfl
  | observer k =>
      obtain ⟨i, hi, rfl⟩ := (among?_observer_eq_some_iff h.ordered).mp hj
      exact h.isReady_observer hm hi

theorem jobs_eq (h : m.Thins places n) : n.jobs = m.jobs.filterMap (·.among? places) := by
  have htasks : n.tasks = m.tasks := h.same Monitor.tasks fun _ => rfl
  have hstreams : ∀ l : List Nat,
      (l.map Job.stream).filterMap (·.among? places) = l.map .stream := by
    intro l
    rw [List.filterMap_map]
    exact congrFun List.filterMap_eq_map l
  have hobservers : ∀ l : List Nat, (l.map Job.observer).filterMap (·.among? places) =
      (l.filterMap places.idxOf?).map .observer := by
    intro l
    rw [List.filterMap_map, List.map_filterMap]
    rfl
  rw [jobs, jobs, htasks, h.length, List.filterMap_append, hstreams, hobservers,
    filterMap_idxOf?_range h.ordered h.present]

theorem mem_queue_among (h : m.Thins places n) {j j' : Job} (hj : j.among? places = some j') :
    j' ∈ n.queue ↔ j ∈ m.queue := by
  rw [h.queue, List.mem_filterMap]
  constructor
  · rintro ⟨l, hl, hlj⟩
    rwa [among?_injective h.ordered hj hlj]
  · exact fun hmem => ⟨j, hmem, hj⟩

/-- Who becomes ready in both monitors becomes so in the same order. -/
theorem enqueueReady (h : m.Thins places n) (hm : m.Lined) :
    m.enqueueReady.Thins places n.enqueueReady := by
  refine ⟨h.ordered, ?_, h.board, h.present, h.length, h.observer, ?_⟩
  · obtain ⟨board, observers, queue, rfl⟩ := h.rest
    exact ⟨_, _, _, rfl⟩
  · show n.queue ++ n.jobs.filter _ = (m.queue ++ m.jobs.filter _).filterMap _
    rw [List.filterMap_append, ← h.queue, h.jobs_eq, List.filter_filterMap, List.filterMap_filter]
    refine congrArg _ (List.filterMap_congr fun j _ => ?_)
    cases hj : j.among? places with
    | none => simp
    | some j' =>
        simp [Option.filter, h.isReady_among hm hj, h.mem_queue_among hj]

end Thins

theorem Queued.enqueueReady_eq (h : m.Queued) : m.enqueueReady = m := by
  have hnobody : m.jobs.filter (fun j => m.isReady j && !m.queue.contains j) = [] := by
    rw [List.filter_eq_nil_iff]
    intro j _ hj
    simp only [Bool.and_eq_true, Bool.not_eq_true', List.contains_eq_mem,
      decide_eq_false_iff_not] at hj
    exact hj.2 ((h.ready j).mpr hj.1)
  rw [Monitor.enqueueReady, hnobody, List.append_nil]

namespace Thins

/-- What is done in one monitor alone makes nobody ready in the other. -/
theorem enqueueReady_left (h : m.Thins places n) (hm : m.Lined) (hn : n.Queued) :
    m.enqueueReady.Thins places n := by
  have hboth := h.enqueueReady hm
  rwa [hn.enqueueReady_eq] at hboth

/-! #### Observers and their lines -/

/-- The same is done about an observer that is in both monitors. -/
theorem attend (h : m.Thins places n) (hi : places[i]? = some k) (f : Listener → Listener)
    {g : Observer → Observer} (hg : ∀ o l, g (o.on l) = (g o).on l) :
    (m.attend k f g).Thins places (n.attend i f g) := by
  -- Only the place `k` is known as `i`.
  have hplace : ∀ {i' k' : Nat}, places[i']? = some k' → (i = i' ↔ k = k') := by
    intro i' k' hi'
    constructor
    · rintro rfl
      exact Option.some.inj (hi.symm.trans hi')
    · rintro rfl
      have hfirst := (idxOf?_eq_some_iff h.ordered).mpr hi
      have hsecond := (idxOf?_eq_some_iff h.ordered).mpr hi'
      exact Option.some.inj (hfirst.symm.trans hsecond)
  refine ⟨h.ordered, ?_, ⟨h.board.status, ?_⟩, ?_, ?_, ?_, h.queue⟩
  · obtain ⟨board, observers, queue, rfl⟩ := h.rest
    exact ⟨_, _, _, rfl⟩
  · intro i' k' hi'
    show (n.board.listeners.modify i f)[i']? = (m.board.listeners.modify k f)[k']?
    rw [List.getElem?_modify, List.getElem?_modify, h.board.line i' k' hi']
    simp only [hplace hi']
  · intro l hl
    show l < (m.observers.modify k g).length
    rw [List.length_modify]
    exact h.present l hl
  · exact (List.length_modify ..).trans h.length
  · intro i' k' hi'
    show (n.observers.modify i g)[i']? = ((m.observers.modify k g)[k']?).map (·.on i')
    rw [List.getElem?_modify, List.getElem?_modify, h.observer i' k' hi']
    simp only [hplace hi']
    cases m.observers[k']? with
    | none => rfl
    | some o =>
        apply congrArg some
        show (if k = k' then g (o.on i') else o.on i') = (if k = k' then g o else o).on i'
        split
        · exact hg o i'
        · rfl

/-- What is done about an observer that is not in both does not matter. -/
theorem attend_absent (h : m.Thins places n) (hk : k ∉ places) (f : Listener → Listener)
    (g : Observer → Observer) : (m.attend k f g).Thins places n := by
  have hother : ∀ {i' k' : Nat}, places[i']? = some k' → k ≠ k' := by
    rintro i' k' hi' rfl
    exact hk (List.mem_of_getElem? hi')
  refine ⟨h.ordered, ?_, ⟨h.board.status, ?_⟩, ?_, h.length, ?_, h.queue⟩
  · obtain ⟨board, observers, queue, rfl⟩ := h.rest
    exact ⟨_, _, _, rfl⟩
  · intro i' k' hi'
    show n.board.listeners[i']? = (m.board.listeners.modify k f)[k']?
    rw [List.getElem?_modify_ne _ _ (hother hi'), h.board.line i' k' hi']
  · intro l hl
    show l < (m.observers.modify k g).length
    rw [List.length_modify]
    exact h.present l hl
  · intro i' k' hi'
    show n.observers[i']? = ((m.observers.modify k g)[k']?).map (·.on i')
    rw [List.getElem?_modify_ne _ _ (hother hi'), h.observer i' k' hi']

/-! #### New observers -/

/-- An observer joins both monitors, and comes last in both. -/
theorem observe (h : m.Thins places n) (hm : m.Reachable) (hn : n.Reachable) :
    m.observe.1.Thins (places ++ [m.observers.length]) n.observe.1 := by
  let m' : Monitor := { m with
    board := m.board.listen.1
    observers := m.observers ++ [{ line := m.board.listen.2 }] }
  let n' : Monitor := { n with
    board := n.board.listen.1
    observers := n.observers ++ [{ line := n.board.listen.2 }] }
  have hlines : m.board.listeners.length = m.observers.length := hm.attentive.lined.length
  have hlines' : n.board.listeners.length = places.length :=
    hn.attentive.lined.length.trans h.length
  have hcurrent : n.board.current = m.board.current := congrArg Cell.value h.board.status
  have hordered : (places ++ [m.observers.length]).Pairwise (· < ·) := by
    refine List.pairwise_append.mpr ⟨h.ordered, List.pairwise_singleton _ _, ?_⟩
    intro k hk l hl
    rw [List.mem_singleton.mp hl]
    exact h.present k hk
  have hlined : m'.Lined := by
    have hstep := hm.attentive.lined.step (.observe m)
    exact ⟨hstep.line, hstep.length⟩
  suffices hthins : m'.Thins (places ++ [m.observers.length]) n' from hthins.enqueueReady hlined
  refine ⟨hordered, ?_, ⟨h.board.status, ?_⟩, ?_, ?_, ?_, ?_⟩
  · obtain ⟨board, observers, queue, rfl⟩ := h.rest
    exact ⟨_, _, _, rfl⟩
  · intro i k hi
    show (n.board.listeners ++ [_])[i]? = (m.board.listeners ++ [_])[k]?
    rcases getElem?_concat_eq_some_iff.mp hi with hold | ⟨rfl, rfl⟩
    · have hk := h.present k (List.mem_of_getElem? hold)
      obtain ⟨hlt, -⟩ := List.getElem?_eq_some_iff.mp hold
      rw [List.getElem?_append_left (by omega), List.getElem?_append_left (by omega),
        h.board.line i k hold]
    · rw [← hlines', ← hlines, List.getElem?_concat_length, List.getElem?_concat_length, hcurrent]
  · intro k hk
    show k < (m.observers ++ [_]).length
    rw [List.length_append, List.length_singleton]
    rcases List.mem_append.mp hk with hold | hnew
    · exact Nat.lt_succ_of_lt (h.present k hold)
    · rw [List.mem_singleton.mp hnew]
      exact Nat.lt_succ_self _
  · show (n.observers ++ [_]).length = (places ++ [_]).length
    rw [List.length_append, List.length_append, h.length]
    rfl
  · intro i k hi
    show (n.observers ++ [_])[i]? = ((m.observers ++ [_])[k]?).map (·.on i)
    rcases getElem?_concat_eq_some_iff.mp hi with hold | ⟨rfl, rfl⟩
    · have hk := h.present k (List.mem_of_getElem? hold)
      obtain ⟨hlt, -⟩ := List.getElem?_eq_some_iff.mp hold
      rw [List.getElem?_append_left (h.length ▸ hlt), List.getElem?_append_left hk,
        h.observer i k hold]
    · rw [← h.length, List.getElem?_concat_length, List.getElem?_concat_length, h.length, ← hlines']
      rfl
  · -- The new observer was not in the queue.
    show n.queue = m.queue.filterMap _
    rw [h.queue]
    refine List.filterMap_congr fun j hj => ?_
    cases j with
    | stream i => rfl
    | observer k =>
        have hready := (hm.queued.ready (.observer k)).mp hj
        obtain ⟨o, ho, -⟩ := (Option.any_eq_true _ _).mp hready
        obtain ⟨hlt, -⟩ := List.getElem?_eq_some_iff.mp ho
        exact congrArg (Option.map Job.observer)
          (idxOf?_concat_of_ne h.ordered hordered (Nat.ne_of_lt hlt)).symm

/-- An observer joins one of the monitors only. -/
theorem observe_absent (h : m.Thins places n) (hm : m.Reachable) (hn : n.Queued) :
    m.observe.1.Thins places n := by
  let m' : Monitor := { m with
    board := m.board.listen.1
    observers := m.observers ++ [{ line := m.board.listen.2 }] }
  have hlines : m.board.listeners.length = m.observers.length := hm.attentive.lined.length
  have hlined : m'.Lined := by
    have hstep := hm.attentive.lined.step (.observe m)
    exact ⟨hstep.line, hstep.length⟩
  suffices hthins : m'.Thins places n from hthins.enqueueReady_left hlined hn
  refine ⟨h.ordered, ?_, ⟨h.board.status, ?_⟩, ?_, h.length, ?_, h.queue⟩
  · obtain ⟨board, observers, queue, rfl⟩ := h.rest
    exact ⟨_, _, _, rfl⟩
  · intro i k hi
    have hk := h.present k (List.mem_of_getElem? hi)
    show n.board.listeners[i]? = (m.board.listeners ++ [_])[k]?
    rw [List.getElem?_append_left (by omega), h.board.line i k hi]
  · intro k hk
    show k < (m.observers ++ [_]).length
    rw [List.length_append]
    exact Nat.lt_add_right _ (h.present k hk)
  · intro i k hi
    show n.observers[i]? = ((m.observers ++ [_])[k]?).map (·.on i)
    rw [List.getElem?_append_left (h.present k (List.mem_of_getElem? hi)), h.observer i k hi]

/-! #### What is asked of observers -/

theorem readHeard_eq_attend (ho : m.observers[k]? = some o) :
    ({ m with observers := m.observers.set k { o with heard := o.heard.read.1 } } : Monitor) =
      m.attend k id fun o => { o with heard := o.heard.read.1 } := by
  rw [Monitor.attend, List.modify_id]
  simp [List.modify_eq_set_getElem?, ho]

theorem unobserve_eq_attend (m : Monitor) (k : Nat) :
    m.unobserve k = (m.attend k id fun o => { o with aborted := true }).enqueueReady := by
  rw [Monitor.attend, List.modify_id]
  rfl

theorem lined_unobserve (hm : m.Lined) (k : Nat) :
    (m.attend k id fun o => { o with aborted := true }).Lined := by
  have hstep := hm.step (.unobserve m k)
  rw [unobserve_eq_attend] at hstep
  exact ⟨hstep.line, hstep.length⟩

theorem unobserve (h : m.Thins places n) (hm : m.Lined) (hi : places[i]? = some k) :
    (m.unobserve k).Thins places (n.unobserve i) := by
  rw [unobserve_eq_attend, unobserve_eq_attend]
  exact (h.attend hi id fun _ _ => rfl).enqueueReady (lined_unobserve hm k)

theorem unobserve_absent (h : m.Thins places n) (hm : m.Lined) (hn : n.Queued)
    (hk : k ∉ places) : (m.unobserve k).Thins places n := by
  rw [unobserve_eq_attend]
  exact (h.attend_absent hk id _).enqueueReady_left (lined_unobserve hm k) hn

/-! #### What is done about something else -/

/-- What is done in both monitors without regard to who observes. -/
theorem of_blind (h : m.Thins places n) {f : Monitor → Monitor} (hf : Blind f) :
    (f m).Thins places (f n) := by
  obtain ⟨board, observers, queue, hn⟩ := h.rest
  have hother :
      f n = { f m with board := n.board, observers := n.observers, queue := n.queue } := by
    rw [hn]
    exact hf m board observers queue
  exact h.congr hother (hf.board m) (hf.observers m) (hf.queue m)

theorem of_blind_ready (h : m.Thins places n) (hm : m.Lined) {f : Monitor → Monitor}
    (hf : Blind f) : (f m).enqueueReady.Thins places (f n).enqueueReady :=
  (h.of_blind hf).enqueueReady (hm.of_blind hf)

/-- A feed ends. -/
theorem close (h : m.Thins places n) (hm : m.Lined) (id : FeedId) :
    (m.close id).Thins places (n.close id) :=
  h.of_blind_ready hm (f := fun m => m.modifyFeed id.resource id.place (·.close))
    fun _ _ _ _ => rfl

/-- A generation opens in both. -/
theorem attach (h : m.Thins places n) (hm : m.Lined) (g : Generation) (handle : Option Handle) :
    (m.attach g handle).Thins places (n.attach g handle) := by
  let f : Monitor → Monitor := fun m => { m.abandonTasks with
    store := m.store.reset g
    tasks := m.abandonTasks.tasks ++ Resource.all.map (m.taskFor g handle)
    own := (List.range Resource.all.length).map (m.abandonTasks.tasks.length + ·)
    generation := g
    handle }
  have hf : Blind f := fun _ _ _ _ => rfl
  have hopened : ({ f m with board := m.board.begin g handle.isSome } : Monitor).Thins places
      { f n with board := n.board.begin g handle.isSome } := by
    have hnext := h.of_blind hf
    refine ⟨h.ordered, ?_, h.board.publish _, h.present, h.length, h.observer, h.queue⟩
    obtain ⟨board, observers, queue, hrest⟩ := hnext.rest
    exact ⟨n.board.begin g handle.isSome, observers, queue, by rw [hrest]⟩
  exact hopened.enqueueReady ⟨hm.line, (List.length_map _).trans hm.length⟩

end Thins

end Monitor

end BrokerMonitor
