import Mathlib.Data.List.Sort
import BrokerMonitor.Scenario
/-!
# Times

What happens on a stream is in the order of its times, and the times at which anything happens come
in ascending order, each once. So what has happened up to a time is what happened before, and then
what happens at the time itself.
-/

namespace BrokerMonitor

namespace Timed

variable {α : Type} {es : List (Timed α)}

/-- What has happened up to a time. -/
def upTo (time : Nat) (es : List (Timed α)) : List α :=
  (es.filter (·.time ≤ time)).map (·.value)

/-- What has happened before a time. -/
def earlier (time : Nat) (es : List (Timed α)) : List α :=
  (es.filter (·.time < time)).map (·.value)

@[simp] theorem earlier_zero (es : List (Timed α)) : earlier 0 es = [] := by simp [earlier]

theorem pairwise_inOrder (now : Nat) (es : List (Timed α)) :
    (inOrder now es).Pairwise (·.time ≤ ·.time) := by
  induction es generalizing now with
  | nil => exact .nil
  | cons e es ih => exact .cons (fun _ h => le_time_of_mem_inOrder h) (ih _)

/-- What happens at a time comes after what happened before. -/
theorem earlier_append (h : es.Pairwise (·.time ≤ ·.time)) (time : Nat) :
    earlier time es ++ (es.filter (·.time == time)).map (·.value) = upTo time es := by
  rw [earlier, upTo, ← List.map_append]
  congr 1
  induction es with
  | nil => rfl
  | cons e es ih =>
      obtain ⟨hfirst, hrest⟩ := List.pairwise_cons.mp h
      specialize ih hrest
      rcases Nat.lt_trichotomy e.time time with hlt | heq | hgt
      · simp [hlt, Nat.le_of_lt hlt, Nat.ne_of_lt hlt, ih]
      · have hnone : es.filter (·.time < time) = [] := by
          refine List.filter_eq_nil_iff.mpr fun x hx => ?_
          simpa [← heq] using hfirst x hx
        rw [hnone, List.nil_append] at ih
        simp [heq, hnone, ih]
      · have hle : ¬ e.time ≤ time := by omega
        simp [hle, Nat.ne_of_gt hgt, Nat.not_lt.mpr (Nat.le_of_lt hgt), ih]

/-- Nothing happens between two times if nothing that happens is between them. -/
theorem earlier_eq_upTo {time next : Nat} (hnext : time < next)
    (h : ∀ e ∈ es, e.time ≤ time ∨ next ≤ e.time) : earlier next es = upTo time es := by
  rw [earlier, upTo]
  congr 1
  refine List.filter_congr fun e he => ?_
  rw [decide_eq_decide]
  rcases h e he with hle | hge <;> omega

/-- Something has happened up to a time if the first thing has. -/
theorem head?_upTo (h : es.Pairwise (·.time ≤ ·.time)) (time : Nat) :
    (upTo time es).head? = (es.head?.filter (·.time ≤ time)).map (·.value) := by
  cases es with
  | nil => rfl
  | cons e es =>
      by_cases hle : e.time ≤ time
      · simp [upTo, hle]
      · have hnone : upTo time (e :: es) = [] := by
          rw [upTo, List.map_eq_nil_iff, List.filter_eq_nil_iff]
          intro x hx
          rcases List.mem_cons.mp hx with rfl | hx
          · simpa using hle
          · have hfirst := (List.pairwise_cons.mp h).1 x hx
            simp only [decide_eq_true_eq]
            omega
        rw [hnone]
        simpa using hle

end Timed

/-! ### Ascending times -/

/-- What is kept when repeated elements are erased does not depend on what was kept before. -/
theorem eraseReps_loop (a : Nat) (l kept : List Nat) :
    List.eraseRepsBy.loop (· == ·) a l kept =
      kept.reverse ++ List.eraseRepsBy.loop (· == ·) a l [] := by
  induction l generalizing a kept with
  | nil => simp [List.eraseRepsBy.loop]
  | cons b l ih =>
      unfold List.eraseRepsBy.loop
      split
      · exact ih a kept
      · rw [ih b (a :: kept), ih b [a]]
        simp

/-- Of an ordered list each element is kept once. -/
theorem eraseReps_ascending {l : List Nat} (h : l.Pairwise (· ≤ ·)) :
    l.eraseReps.Pairwise (· < ·) ∧ ∀ n, n ∈ l.eraseReps ↔ n ∈ l := by
  cases l with
  | nil => exact ⟨.nil, fun _ => .rfl⟩
  | cons a l =>
      show (List.eraseRepsBy.loop (· == ·) a l []).Pairwise (· < ·) ∧
        ∀ n, n ∈ List.eraseRepsBy.loop (· == ·) a l [] ↔ n ∈ a :: l
      induction l generalizing a with
      | nil => simp [List.eraseRepsBy.loop]
      | cons b l ih =>
          obtain ⟨hfirst, hrest⟩ := List.pairwise_cons.mp h
          unfold List.eraseRepsBy.loop
          split
          · next hsame =>
              obtain rfl : a = b := eq_of_beq hsame
              obtain ⟨hascending, hmem⟩ := ih a hrest
              exact ⟨hascending, fun n => by simp [hmem n]⟩
          · next hother =>
              obtain ⟨hascending, hmem⟩ := ih b hrest
              have hlt : a < b := Nat.lt_of_le_of_ne (hfirst b List.mem_cons_self)
                fun heq => absurd hother (by simp [heq])
              rw [eraseReps_loop]
              refine ⟨List.pairwise_cons.mpr ⟨fun n hn => ?_, hascending⟩, fun n => ?_⟩
              · rcases List.mem_cons.mp ((hmem n).mp hn) with rfl | hn
                · exact hlt
                · exact Nat.lt_of_lt_of_le hlt ((List.pairwise_cons.mp hrest).1 n hn)
              · simp [hmem n]

/-! ### The states up to a deadline -/

namespace Course

/-- What is in time for a deadline: the start, and whatever has an earlier time. -/
def inTime (c : Course) (deadline : Nat) : Course :=
  { c with later := c.later.filter (·.time < deadline) }

/-- As the times do not go back, this is the part of the course before the deadline. -/
theorem before_eq_inTime {c : Course} (hordered : c.later.Pairwise (·.time ≤ ·.time))
    (deadline : Nat) : c.before deadline = c.inTime deadline := by
  obtain ⟨start, later⟩ := c
  rw [before, inTime, Course.mk.injEq]
  refine ⟨rfl, ?_⟩
  dsimp only at hordered ⊢
  induction later with
  | nil => rfl
  | cons first later ih =>
      obtain ⟨hfirst, hrest⟩ := List.pairwise_cons.mp hordered
      by_cases hlt : first.time < deadline
      · simp [hlt, ih hrest]
      · have hnone : later.filter (·.time < deadline) = [] := by
          refine List.filter_eq_nil_iff.mpr fun state hstate => ?_
          have hle := hfirst state hstate
          simp only [decide_eq_true_eq]
          omega
        simp [hlt, hnone]

end Course

namespace Scenario

variable {events : EachResource StreamEvents}

/-- The times come in ascending order, each once. -/
theorem ascending_times (events : EachResource StreamEvents) :
    (times events).Pairwise (· < ·) ∧ ∀ n, n ∈ times events ↔
      n ∈ 0 :: events.channels.map (·.time) ++ events.adapters.map (·.time) := by
  have hordered : ((0 :: events.channels.map (·.time) ++
      events.adapters.map (·.time)).mergeSort).Pairwise (· ≤ ·) := by
    refine (List.pairwise_mergeSort ?_ ?_ _).imp fun h => of_decide_eq_true h
    · intro a b c hab hbc
      simp only [decide_eq_true_eq] at *
      omega
    · intro a b
      simp only [Bool.or_eq_true, decide_eq_true_eq]
      omega
  obtain ⟨hascending, hmem⟩ := eraseReps_ascending hordered
  exact ⟨hascending, fun n => (hmem n).trans List.mem_mergeSort⟩

/-- There is a time for everything. -/
theorem time_mem_times {r : Resource} {e : Timed (StreamEvent r)} (h : e ∈ events.get r) :
    e.time ∈ times events := by
  have htime := List.mem_map_of_mem (f := (·.time)) h
  refine ((ascending_times events).2 _).mpr ?_
  cases r with
  | channels => exact List.mem_append_left _ (List.mem_cons_of_mem _ htime)
  | adapters => exact List.mem_append_right _ htime

/-- What happens on the streams is in order. -/
theorem pairwise_events (s : Scenario) (rate : UInt32) (r : Resource) :
    ((s.events rate).get r).Pairwise (·.time ≤ ·.time) := by
  cases r with
  | channels => exact Timed.pairwise_inOrder 0 _
  | adapters =>
      show ((if s.repeatsRate then _ else _) ++ Timed.inOrder 0 s.streams.adapters).Pairwise _
      split
      · exact .cons (fun _ _ => Nat.zero_le _) (Timed.pairwise_inOrder 0 _)
      · exact Timed.pairwise_inOrder 0 _

end Scenario

end BrokerMonitor
