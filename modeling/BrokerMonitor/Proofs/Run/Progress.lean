import BrokerMonitor.Monitor.Schedule
import BrokerMonitor.Proofs.Run.Reading
/-!
# What one run of a stream task comes to

A run of a stream task reports, opens its stream, takes what its feed holds and may end. However
far it gets, its whole effect is one record: the statuses that it says, the messages that it puts
into its slot, the phase that it is left in, and what becomes of the feeds and the requests.
`progress` applies such a record to the monitor. Nothing but the task itself, the board, the task's
own slot, the feeds and the requests is touched.
-/

namespace BrokerMonitor

/-- What one run of a task that follows `r` comes to. -/
structure Progress (r : Resource) where
  /-- The statuses that the task says, news or not. -/
  said : List StreamStatus := []
  /-- The messages that it puts into its slot. -/
  messages : List r.Message := []
  phase : TaskPhase
  feeds : EachResource Feeds
  requests : Log StreamRequest

namespace StreamTask

/-- The status that a task says when it starts. -/
def opening (t : StreamTask) : StreamStatus := if t.target.isSome then .connecting else .idle

/-- The reports that a task passes on when it says some statuses. -/
def passedOn (t : StreamTask) (said : List StreamStatus) : List Report :=
  (t.reporter.reportAll said).2

/-- The task after it has said some statuses and put `count` messages into its slot. -/
def progress (t : StreamTask) (said : List StreamStatus) (count : Nat) (phase : TaskPhase) :
    StreamTask :=
  { t with
    reporter := (t.reporter.reportAll said).1
    log := match t.audience with
      | .board => t.log
      | .log => t.log.add (t.passedOn said)
    accepted := t.accepted + count
    phase }

section Progress

variable (t : StreamTask) (said : List StreamStatus) (count : Nat) (phase : TaskPhase)

@[simp] theorem resource_progress : (t.progress said count phase).resource = t.resource := rfl

@[simp] theorem audience_progress : (t.progress said count phase).audience = t.audience := rfl

@[simp] theorem aborted_progress : (t.progress said count phase).aborted = t.aborted := rfl

@[simp] theorem generation_progress :
    (t.progress said count phase).generation = t.generation := by
  simp [generation, progress]

end Progress

end StreamTask

namespace Monitor

variable {m : Monitor} {i : Nat} {t : StreamTask}

/-- The monitor after task `t` at place `i` has run with some progress. -/
def progress (m : Monitor) (i : Nat) (t : StreamTask) (p : Progress t.resource) : Monitor :=
  { m with
    tasks := m.tasks.set i (t.progress p.said p.messages.length p.phase)
    board := match t.audience with
      | .board => m.board.reportAll (t.passedOn p.said)
      | .log => m.board
    store := m.store.set t.resource
      (Slot.deliver (m.store.get t.resource) t.generation p.messages)
    feeds := p.feeds
    requests := p.requests }

/-- What a task of another generation reports does not reach the board. -/
theorem board_progress_of_stale (h : t.generation ≠ m.status.generation)
    (p : Progress t.resource) : (m.progress i t p).board = m.board := by
  cases ha : t.audience with
  | log => simp [progress, ha]
  | board =>
      have hstale : ∀ r ∈ t.passedOn p.said, r.generation ≠ m.board.current.generation := by
        intro r hr
        rw [(Reporter.tags_of_mem_reportAll hr).2]
        exact h
      simp [progress, ha, StatusBoard.reportAll_of_stale hstale]

/-- What a task of another generation takes does not reach its slot. -/
theorem store_progress_of_stale (h : (m.snapshot t.resource).generation ≠ t.generation)
    (p : Progress t.resource) : (m.progress i t p).store = m.store := by
  rw [progress, Slot.deliver_of_ne h, EachResource.set_get_self]

theorem modify_set_self {α : Type} (l : List α) (i : Nat) (a : α) (f : α → α) :
    (l.set i a).modify i f = l.set i (f a) := by
  induction l generalizing i with
  | nil => simp
  | cons b l ih =>
      cases i with
      | zero => rfl
      | succ i => simp [ih]

theorem modify_tasks (ht : m.tasks[i]? = some t) (f : StreamTask → StreamTask) :
    m.tasks.modify i f = m.tasks.set i (f t) := by
  simp [List.modify_eq_set_getElem?, ht]

theorem set_task (ht : m.tasks[i]? = some t) : m.tasks.set i t = m.tasks := by
  obtain ⟨h, rfl⟩ := List.getElem?_eq_some_iff.mp ht
  exact List.set_getElem_self h

theorem getElem?_tasks_progress (ht : m.tasks[i]? = some t) (p : Progress t.resource) :
    (m.progress i t p).tasks[i]? = some (t.progress p.said p.messages.length p.phase) := by
  obtain ⟨h, -⟩ := List.getElem?_eq_some_iff.mp ht
  simp [progress, h]

/-- Only the task's own place has changed. -/
theorem cases_of_getElem?_progress (ht : m.tasks[i]? = some t) {p : Progress t.resource} {j : Nat}
    {u : StreamTask} (hu : (m.progress i t p).tasks[j]? = some u) :
    j = i ∧ u = t.progress p.said p.messages.length p.phase ∨ j ≠ i ∧ m.tasks[j]? = some u := by
  by_cases hji : j = i
  · subst hji
    rw [getElem?_tasks_progress ht] at hu
    exact .inl ⟨rfl, (Option.some.inj hu).symm⟩
  · exact .inr ⟨hji, List.getElem?_set_ne (Ne.symm hji) ▸ hu⟩

/-- A task that goes on after some progress has made the sum of both. -/
theorem progress_progress (m : Monitor) (i : Nat) (t : StreamTask) (p q : Progress t.resource) :
    (m.progress i t p).progress i (t.progress p.said p.messages.length p.phase) q =
      m.progress i t
        { said := p.said ++ q.said
          messages := p.messages ++ q.messages
          phase := q.phase
          feeds := q.feeds
          requests := q.requests } := by
  cases ha : t.audience <;>
    simp [progress, StreamTask.progress, StreamTask.passedOn, StreamTask.generation, ha,
      Reporter.reportAll_append, StatusBoard.reportAll_append, Slot.deliver_append,
      List.set_set, Nat.add_assoc, Log.add]

/-- A task that says nothing and takes nothing changes nothing but its phase, the feeds and the
requests. -/
theorem progress_silent (m : Monitor) (i : Nat) (t : StreamTask) (phase : TaskPhase)
    (feeds : EachResource Feeds) (requests : Log StreamRequest) :
    m.progress i t { phase, feeds, requests } =
      { m with tasks := m.tasks.set i { t with phase }, feeds, requests } := by
  cases ha : t.audience <;>
    simp [progress, StreamTask.progress, StreamTask.passedOn, ha, Log.add, StatusBoard.reportAll]

/-- Telling what a task passes on, after the task and its slot have been brought up to date. -/
theorem tell_eq_progress (ht : m.tasks[i]? = some t) (said : List StreamStatus)
    (messages : List t.resource.Message) (feeds : EachResource Feeds) :
    ({ m with
      store := m.store.set t.resource
        (Slot.deliver (m.store.get t.resource) t.generation messages)
      feeds
      tasks := m.tasks.modify i fun u => { u with
        reporter := (t.reporter.reportAll said).1
        accepted := t.accepted + messages.length } } : Monitor).tell i t.audience
          (t.passedOn said) =
      m.progress i t { said, messages, phase := t.phase, feeds, requests := m.requests } := by
  cases ha : t.audience <;>
    simp [tell, progress, StreamTask.progress, ha, modify_tasks ht, modify_set_self]

theorem reportFor_eq_progress (ht : m.tasks[i]? = some t) (s : StreamStatus) :
    m.reportFor i t s = m.progress i t
      { said := [s], phase := t.phase, feeds := m.feeds, requests := m.requests } := by
  rw [← tell_eq_progress ht]
  simp [reportFor, StreamTask.passedOn, Reporter.reportAll_singleton, modify_tasks ht]

/-- No progress at all. -/
theorem progress_nothing (ht : m.tasks[i]? = some t) :
    m = m.progress i t { phase := t.phase, feeds := m.feeds, requests := m.requests } := by
  rw [progress_silent, set_task ht]

end Monitor

end BrokerMonitor
