import BrokerMonitor.StatusBoard
/-!
# What a line is sent

A board takes reports and opens generations, and parties register with it, take what they were sent,
and are dropped. `BrokerStatus.recomputed` is the list of statuses that a series of such events
computes, a function of the status alone. `Holds.afterAll` says that a line that is not dropped gets
just these, whoever else listens; until then, and after it has been dropped, a line has never got
anything else (`Holds.received_prefix`).
-/

namespace BrokerMonitor

namespace StatusBoard

/-- What can happen to a board. -/
inductive Event where
  | begin (g : Generation) (attached : Bool)
  | report (r : Report)
  | listen
  /-- Listener `i` takes what it was sent. -/
  | take (i : Nat)
  /-- Listener `i` is dropped. -/
  | unlisten (i : Nat)
deriving DecidableEq

/-- The event is not about listeners. -/
def Event.computes : Event → Bool
  | .begin .. | .report _ => true
  | _ => false

/-- The board after an event. -/
def after (b : StatusBoard) : Event → StatusBoard
  | .begin g attached => b.begin g attached
  | .report r => b.report r
  | .listen => b.listen.1
  | .take i => (b.take i).1
  | .unlisten i => b.unlisten i

/-- The board after a series of events. -/
def afterAll (b : StatusBoard) (events : List Event) : StatusBoard := events.foldl after b

/-- What listener `i` takes in the course of some events. -/
def received (b : StatusBoard) (i : Nat) : List Event → List BrokerStatus
  | [] => []
  | e :: rest => (if e = .take i then (b.take i).2 else []) ++ (b.after e).received i rest

end StatusBoard

namespace BrokerStatus

/-- The status that an event computes: each opening of a generation computes one, and each report of
the current generation. A stale report computes none, nor does anything about listeners. -/
def recompute? (s : BrokerStatus) : StatusBoard.Event → Option BrokerStatus
  | .begin g attached => some (.begin g attached)
  | .report r => s.accept? r
  | _ => none

/-- The statuses that some events compute one after the other, starting from `s`. -/
def recomputed (s : BrokerStatus) : List StatusBoard.Event → List BrokerStatus
  | [] => []
  | e :: rest => (s.recompute? e).toList ++ ((s.recompute? e).getD s).recomputed rest

/-- It does not matter who registers, takes and is dropped in between. -/
theorem recomputed_filter (s : BrokerStatus) (events : List StatusBoard.Event) :
    s.recomputed (events.filter (·.computes)) = s.recomputed events := by
  induction events generalizing s with
  | nil => rfl
  | cons e rest ih =>
      cases e with
      | begin | report => exact congrArg (_ ++ ·) (ih _)
      | _ => exact ih s

end BrokerStatus

namespace StatusBoard

variable {b : StatusBoard} {i : Nat} {inbox : List BrokerStatus}

/-- Line `i` is read and sent to, and holds `inbox`. -/
def Holds (b : StatusBoard) (i : Nat) (inbox : List BrokerStatus) : Prop :=
  b.listeners[i]? = some { inbox := inbox, alive := true, registered := true }

theorem Holds.inbox_eq (h : b.Holds i inbox) : b.inbox i = inbox := by
  rw [StatusBoard.inbox, h]
  rfl

theorem Holds.unique (h : b.Holds i inbox) {other : List BrokerStatus} (h' : b.Holds i other) :
    inbox = other :=
  h.inbox_eq.symm.trans h'.inbox_eq

theorem current_after (b : StatusBoard) (e : Event) :
    (b.after e).current = (b.current.recompute? e).getD b.current := by
  cases e with
  | report r =>
      simp only [after, report, BrokerStatus.recompute?]
      cases b.current.accept? r <;> rfl
  | take i =>
      simp only [after, take]
      split <;> rfl
  | _ => rfl

theorem Holds.publish (h : b.Holds i inbox) (s : BrokerStatus) :
    (b.publish s).Holds i (inbox ++ [s]) := by
  rw [Holds] at h
  simp [Holds, StatusBoard.publish, h, Listener.send]

/-- An event that does not drop the line leaves it with what it held and what the event has
computed, less what is taken from it. -/
theorem Holds.after (h : b.Holds i inbox) {e : Event} (he : e ≠ .unlisten i) :
    ∃ inbox', (b.after e).Holds i inbox' ∧
      (if e = .take i then (b.take i).2 else []) ++ inbox' =
        inbox ++ (b.current.recompute? e).toList := by
  have hsome : b.listeners[i]? = some { inbox := inbox } := h
  obtain ⟨hlt, -⟩ := List.getElem?_eq_some_iff.mp hsome
  cases e with
  | begin g attached => exact ⟨_, h.publish (.begin g attached), rfl⟩
  | report r =>
      simp only [StatusBoard.after, StatusBoard.report, BrokerStatus.recompute?]
      cases hr : b.current.accept? r with
      | none => exact ⟨inbox, h, by simp⟩
      | some s => exact ⟨_, h.publish s, rfl⟩
  | listen =>
      refine ⟨inbox, ?_, by simp [BrokerStatus.recompute?]⟩
      exact (List.getElem?_append_left hlt).trans hsome
  | take j =>
      by_cases hij : j = i
      · subst hij
        refine ⟨[], ?_, by simp [StatusBoard.take, hsome, Listener.take, BrokerStatus.recompute?]⟩
        simp only [Holds, StatusBoard.after, StatusBoard.take, hsome, Listener.take]
        exact List.getElem?_set_self hlt
      · refine ⟨inbox, ?_, by simp [hij, BrokerStatus.recompute?]⟩
        simp only [Holds, StatusBoard.after, StatusBoard.take]
        split
        · exact (List.getElem?_set_ne hij).trans hsome
        · exact hsome
  | unlisten j =>
      have hij : j ≠ i := fun h => he (h ▸ rfl)
      refine ⟨inbox, ?_, by simp [BrokerStatus.recompute?]⟩
      exact (List.getElem?_modify_ne _ _ hij).trans hsome

/-- A line that nobody drops stays in place, and gets what was computed, in order, each once. -/
theorem Holds.afterAll (h : b.Holds i inbox) {events : List Event}
    (hkept : .unlisten i ∉ events) :
    ∃ inbox', (b.afterAll events).Holds i inbox' ∧
      b.received i events ++ inbox' = inbox ++ b.current.recomputed events := by
  induction events generalizing b inbox with
  | nil => exact ⟨inbox, h, by simp [received, BrokerStatus.recomputed]⟩
  | cons e rest ih =>
      rw [List.mem_cons, not_or] at hkept
      obtain ⟨hne, hrest⟩ := hkept
      obtain ⟨middle, hmiddle, hfirst⟩ := h.after (Ne.symm hne)
      obtain ⟨inbox', hlast, hlater⟩ := ih hmiddle hrest
      refine ⟨inbox', hlast, ?_⟩
      rw [received, BrokerStatus.recomputed, List.append_assoc, hlater, ← current_after,
        ← List.append_assoc, hfirst, List.append_assoc]

theorem Holds.listen (b : StatusBoard) : b.listen.1.Holds b.listeners.length [b.current] := by
  simp [Holds, StatusBoard.listen]

theorem inbox_take (b : StatusBoard) (i : Nat) : (b.take i).1.inbox i = [] := by
  unfold take
  split
  · next l hl =>
      obtain ⟨hlt, -⟩ := List.getElem?_eq_some_iff.mp hl
      simp [inbox, hlt, Listener.take]
  · next hl => simp [inbox, hl]

theorem inbox_take_of_ne (b : StatusBoard) {i j : Nat} (h : i ≠ j) :
    (b.take i).1.inbox j = b.inbox j := by
  unfold take
  split
  · simp [inbox, h]
  · rfl

theorem inbox_unlisten_of_ne (b : StatusBoard) {i j : Nat} (h : i ≠ j) :
    (b.unlisten i).inbox j = b.inbox j := by
  simp [unlisten, inbox, h]

/-- What waits in a line stays there whatever is published. -/
theorem inbox_publish_ne_nil {b : StatusBoard} {j : Nat} (h : b.inbox j ≠ []) (s : BrokerStatus) :
    (b.publish s).inbox j ≠ [] := by
  unfold inbox at h ⊢
  simp only [publish, List.getElem?_map]
  cases hl : b.listeners[j]? with
  | none => simp [hl] at h
  | some l =>
      have hl' : l.inbox ≠ [] := by simpa [hl] using h
      simp only [Option.map_some, Option.getD_some]
      unfold Listener.send
      split
      · split <;> simp [hl']
      · exact hl'

theorem inbox_reportAll_ne_nil {b : StatusBoard} {j : Nat} (h : b.inbox j ≠ [])
    (reports : List Report) : (b.reportAll reports).inbox j ≠ [] := by
  induction reports generalizing b with
  | nil => exact h
  | cons r rest ih =>
      apply ih
      unfold report
      split
      · exact inbox_publish_ne_nil h _
      · exact h

/-! ### Series of events -/

@[simp] theorem afterAll_nil (b : StatusBoard) : b.afterAll [] = b := rfl

theorem afterAll_append (b : StatusBoard) (first later : List Event) :
    b.afterAll (first ++ later) = (b.afterAll first).afterAll later := by
  simp [afterAll]

theorem afterAll_report (b : StatusBoard) (reports : List Report) :
    b.afterAll (reports.map .report) = b.reportAll reports := by
  rw [afterAll, List.foldl_map]
  rfl

theorem received_append (b : StatusBoard) (i : Nat) (first later : List Event) :
    b.received i (first ++ later) = b.received i first ++ (b.afterAll first).received i later := by
  induction first generalizing b with
  | nil => rfl
  | cons e rest ih => simp [received, afterAll, ih]

/-- A line gets nothing when nothing is taken from it. -/
theorem received_of_not_mem {events : List Event} (h : .take i ∉ events) :
    b.received i events = [] := by
  induction events generalizing b with
  | nil => rfl
  | cons e rest ih =>
      rw [List.mem_cons, not_or] at h
      obtain ⟨hne, hrest⟩ := h
      rw [received, if_neg (Ne.symm hne), ih hrest, List.append_nil]

/-- The status after some events is the last one that they have computed. -/
theorem current_afterAll (b : StatusBoard) (events : List Event) :
    (b.afterAll events).current = (b.current.recomputed events).getLast?.getD b.current := by
  induction events generalizing b with
  | nil => rfl
  | cons e rest ih =>
      have hstep := ih (b.after e)
      rw [current_after] at hstep
      rw [BrokerStatus.recomputed, List.getLast?_append]
      refine hstep.trans ?_
      cases b.current.recompute? e with
      | none => simp
      | some s => cases (BrokerStatus.recomputed s rest).getLast? <;> simp

/-! ### Dropped lines -/

/-- Line `i` has been dropped. -/
def Dropped (b : StatusBoard) (i : Nat) : Prop :=
  ∃ l, b.listeners[i]? = some l ∧ l.alive = false ∧ l.inbox = []

theorem Dropped.publish (h : b.Dropped i) (s : BrokerStatus) : (b.publish s).Dropped i := by
  obtain ⟨l, hl, halive, hinbox⟩ := h
  refine ⟨l.send s, by simp [StatusBoard.publish, hl], ?_, ?_⟩
  · unfold Listener.send
    split <;> simp [halive]
  · unfold Listener.send
    split <;> simp [halive, hinbox]

/-- A dropped line stays dropped, and nothing is found in it. -/
theorem Dropped.after (h : b.Dropped i) (e : Event) :
    (b.after e).Dropped i ∧ (if e = .take i then (b.take i).2 else []) = [] := by
  obtain ⟨l, hl, halive, hinbox⟩ := h
  obtain ⟨hlt, -⟩ := List.getElem?_eq_some_iff.mp hl
  cases e with
  | begin g attached => exact ⟨Dropped.publish ⟨l, hl, halive, hinbox⟩ _, rfl⟩
  | report r =>
      refine ⟨?_, rfl⟩
      simp only [StatusBoard.after, StatusBoard.report]
      split
      · exact Dropped.publish ⟨l, hl, halive, hinbox⟩ _
      · exact ⟨l, hl, halive, hinbox⟩
  | listen => exact ⟨⟨l, (List.getElem?_append_left hlt).trans hl, halive, hinbox⟩, rfl⟩
  | take j =>
      by_cases hij : j = i
      · subst hij
        refine ⟨⟨l.take.1, ?_, halive, rfl⟩, by simp [StatusBoard.take, hl, Listener.take, hinbox]⟩
        simp only [StatusBoard.after, StatusBoard.take, hl]
        exact List.getElem?_set_self hlt
      · refine ⟨⟨l, ?_, halive, hinbox⟩, by simp [hij]⟩
        simp only [StatusBoard.after, StatusBoard.take]
        split
        · exact (List.getElem?_set_ne hij).trans hl
        · exact hl
  | unlisten j =>
      refine ⟨?_, rfl⟩
      by_cases hij : j = i
      · subst hij
        exact ⟨l.drop, by simp [StatusBoard.after, StatusBoard.unlisten, hl], rfl, rfl⟩
      · exact ⟨l, (List.getElem?_modify_ne _ _ hij).trans hl, halive, hinbox⟩

theorem Dropped.received (h : b.Dropped i) (events : List Event) : b.received i events = [] := by
  induction events generalizing b with
  | nil => rfl
  | cons e rest ih =>
      obtain ⟨hafter, hnothing⟩ := h.after e
      rw [StatusBoard.received, hnothing, ih hafter, List.append_nil]

theorem Dropped.unlisten {l : Listener} (h : b.listeners[i]? = some l) :
    (b.unlisten i).Dropped i :=
  ⟨l.drop, by simp [StatusBoard.unlisten, h], rfl, rfl⟩

/-- What a line has got is the first part of what was computed, also when the line was dropped in
between. -/
theorem Holds.received_prefix (h : b.Holds i inbox) (events : List Event) :
    b.received i events <+: inbox ++ b.current.recomputed events := by
  induction events generalizing b inbox with
  | nil => exact List.nil_prefix
  | cons e rest ih =>
      by_cases he : e = .unlisten i
      · subst he
        have hnothing : b.received i (.unlisten i :: rest) = [] :=
          (Dropped.unlisten h).received rest
        rw [hnothing]
        exact List.nil_prefix
      · obtain ⟨middle, hmiddle, hfirst⟩ := h.after he
        rw [StatusBoard.received, BrokerStatus.recomputed, ← current_after, ← List.append_assoc,
          ← hfirst, List.append_assoc]
        exact (List.prefix_append_right_inj _).mpr (ih hmiddle)

end StatusBoard

end BrokerMonitor
