import BrokerMonitor.Cell
/-!
# Waiting for a cell

A party that waits for a cell to meet a condition looks at it at once, and from then on whenever the
cell has announced something that the party has not seen. It sees only the latest value each time.
What it gets to look at is a list of states, each of which shows the cell; when the list is over, so
is the party's time.
-/

namespace BrokerMonitor.Cell

variable {σ α : Type}

/-- Looks whenever there is something new; gives the first state looked at that meets `p`. -/
def awaitChange (cell : σ → Cell α) (p : α → Bool) (r : Receiver) : List σ → Option σ
  | [] => none
  | s :: later =>
    match (cell s).poll false r with
    | (.fresh a, r) => if p a then some s else awaitChange cell p r later
    | (_, r) => awaitChange cell p r later

/-- Looks at once, and then whenever there is something new. -/
def await (cell : σ → Cell α) (p : α → Bool) (r : Receiver) : List σ → Option σ
  | [] => none
  | s :: later => if p (cell s).value then some s else awaitChange cell p r (s :: later)

theorem of_awaitChange_eq_some {cell : σ → Cell α} {p : α → Bool} {r : Receiver} {states : List σ}
    {s : σ} (h : awaitChange cell p r states = some s) : s ∈ states ∧ p (cell s).value = true := by
  fun_induction awaitChange cell p r states with
  | case1 => cases h
  | case2 r s' later a r' hpoll hp =>
    cases h
    refine ⟨.head _, ?_⟩
    unfold poll at hpoll
    split at hpoll <;> simp_all
  | case3 r s' later a r' hpoll hp ih => exact ⟨.tail _ (ih h).1, (ih h).2⟩
  | case4 r s' later c r' hpoll hne ih => exact ⟨.tail _ (ih h).1, (ih h).2⟩

/-- What a wait gives is one of the states, and meets the condition. -/
theorem of_await_eq_some {cell : σ → Cell α} {p : α → Bool} {r : Receiver} {states : List σ}
    {s : σ} (h : await cell p r states = some s) : s ∈ states ∧ p (cell s).value = true := by
  cases states with
  | nil => cases h
  | cons s' later =>
    simp only [await] at h
    split at h
    · cases h; exact ⟨.head _, ‹_›⟩
    · exact of_awaitChange_eq_some h

end BrokerMonitor.Cell
