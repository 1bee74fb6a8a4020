import Mathlib.Data.List.Basic
import BrokerMonitor.Monitor.StreamTask
import BrokerMonitor.StatusBoard
/-!
# What a reading task says and takes

Reports and messages come in lists, and both are taken one after the other. A reporter passes on of
what it is told only the news, each with its own tags. A slot takes the messages of its own
generation and no others, so a task that reads its feed takes either every message before the first
failure or none at all.
-/

namespace BrokerMonitor

namespace Reporter

@[simp] theorem reportAll_nil (r : Reporter) : r.reportAll [] = (r, []) := rfl

theorem reportAll_cons (r : Reporter) (s : StreamStatus) (rest : List StreamStatus) :
    r.reportAll (s :: rest) =
      (((r.report s).1.reportAll rest).1,
        (r.report s).2.toList ++ ((r.report s).1.reportAll rest).2) := rfl

/-- Reports go on with the reporter that earlier ones have left. -/
theorem reportAll_append (r : Reporter) (first later : List StreamStatus) :
    r.reportAll (first ++ later) =
      (((r.reportAll first).1.reportAll later).1,
        (r.reportAll first).2 ++ ((r.reportAll first).1.reportAll later).2) := by
  induction first generalizing r with
  | nil => rfl
  | cons s rest ih => simp only [List.cons_append, reportAll_cons, ih, List.append_assoc]

theorem reportAll_singleton (r : Reporter) (s : StreamStatus) :
    r.reportAll [s] = ((r.report s).1, (r.report s).2.toList) := by
  simp [reportAll_cons]

@[simp] theorem reportAll_resource (r : Reporter) (said : List StreamStatus) :
    (r.reportAll said).1.resource = r.resource := by
  induction said generalizing r with
  | nil => rfl
  | cons s rest ih => simp [reportAll_cons, ih]

@[simp] theorem reportAll_generation (r : Reporter) (said : List StreamStatus) :
    (r.reportAll said).1.generation = r.generation := by
  induction said generalizing r with
  | nil => rfl
  | cons s rest ih => simp [reportAll_cons, ih]

/-- What is passed on is tagged with the reporter's resource and generation, and is news. -/
theorem report_eq_some {r : Reporter} {s : StreamStatus} {told : Report}
    (h : (r.report s).2 = some told) :
    r.isNews s = true ∧ told = ⟨r.resource, r.generation, s⟩ ∧
      (r.report s).1 = { r with last := some s } := by
  unfold report at h ⊢
  split at h
  · next hnews => exact ⟨hnews, (Option.some.inj h).symm, by simp [hnews]⟩
  · cases h

theorem report_eq_none {r : Reporter} {s : StreamStatus} (h : (r.report s).2 = none) :
    (r.report s).1 = r := by
  unfold report at h ⊢
  split at h
  · cases h
  · next hnews => simp [hnews]

/-- What is passed on was said, and carries the reporter's tags. -/
theorem exists_of_mem_reportAll {r : Reporter} {said : List StreamStatus} {told : Report}
    (h : told ∈ (r.reportAll said).2) : ∃ s ∈ said, told = ⟨r.resource, r.generation, s⟩ := by
  induction said generalizing r with
  | nil => cases h
  | cons s rest ih =>
      rw [reportAll_cons] at h
      rcases List.mem_append.mp h with h | h
      · have hs : (r.report s).2 = some told := by simpa using h
        exact ⟨s, List.mem_cons_self, (report_eq_some hs).2.1⟩
      · obtain ⟨s', hs', rfl⟩ := ih h
        exact ⟨s', List.mem_cons_of_mem s hs', by simp⟩

theorem tags_of_mem_reportAll {r : Reporter} {said : List StreamStatus} {told : Report}
    (h : told ∈ (r.reportAll said).2) :
    told.resource = r.resource ∧ told.generation = r.generation := by
  obtain ⟨s, -, rfl⟩ := exists_of_mem_reportAll h
  exact ⟨rfl, rfl⟩

theorem last_report_eq_streaming_iff (r : Reporter) (s : StreamStatus) :
    (r.report s).1.last = some .streaming ↔ r.last = some .streaming ∨ s = .streaming := by
  have hlast : (r.report s).1.last = if r.isNews s then some s else r.last := by
    unfold report
    split <;> rfl
  rw [hlast, isNews]
  cases r.last with
  | none => simp
  | some l => cases l <;> cases s <;> decide

/-- Once a reporter has said `streaming` it stays with that. -/
theorem last_reportAll_eq_streaming_iff (r : Reporter) (said : List StreamStatus) :
    (r.reportAll said).1.last = some .streaming ↔
      r.last = some .streaming ∨ .streaming ∈ said := by
  induction said generalizing r with
  | nil => simp
  | cons s rest ih =>
      rw [reportAll_cons, List.mem_cons, ih, last_report_eq_streaming_iff, or_assoc,
        eq_comm (a := s)]

end Reporter

namespace StatusBoard

theorem reportAll_append (b : StatusBoard) (first later : List Report) :
    b.reportAll (first ++ later) = (b.reportAll first).reportAll later := by
  simp [reportAll]

@[simp] theorem generation_report (b : StatusBoard) (r : Report) :
    (b.report r).current.generation = b.current.generation := by
  unfold report
  split
  · next s h => exact BrokerStatus.generation_of_accept? h
  · rfl

@[simp] theorem generation_reportAll (b : StatusBoard) (reports : List Report) :
    (b.reportAll reports).current.generation = b.current.generation := by
  induction reports generalizing b with
  | nil => rfl
  | cons r rest ih => exact (ih _).trans (b.generation_report r)

/-- Stale reports change nothing, however many there are. -/
theorem reportAll_of_stale {b : StatusBoard} {reports : List Report}
    (h : ∀ r ∈ reports, r.generation ≠ b.current.generation) : b.reportAll reports = b := by
  induction reports with
  | nil => rfl
  | cons r rest ih =>
      obtain ⟨hr, hrest⟩ := List.forall_mem_cons.mp h
      change (b.report r).reportAll rest = b
      rw [report_of_stale hr]
      exact ih hrest

@[simp] theorem current_take (b : StatusBoard) (i : Nat) : (b.take i).1.current = b.current := by
  unfold take
  split <;> rfl

end StatusBoard

namespace EachResource

variable {F : Resource → Type}

@[simp] theorem set_get_self (p : EachResource F) (r : Resource) : p.set r (p.get r) = p := by
  cases r <;> rfl

@[simp] theorem set_set (p : EachResource F) (r : Resource) (x y : F r) :
    (p.set r x).set r y = p.set r y := by
  cases r <;> rfl

theorem modify_eq_self (p : EachResource F) (r : Resource) {f : F r → F r}
    (h : f (p.get r) = p.get r) : p.modify r f = p := by
  rw [modify, h, set_get_self]

theorem modify_modify (p : EachResource F) (r : Resource) (f g : F r → F r) :
    (p.modify r f).modify r g = p.modify r (g ∘ f) := by
  simp [modify]

end EachResource

namespace Slot

variable {r : Resource}

/-- Messages of generation `g` arrive at a slot one after the other. A slot of another generation
stays as it is. -/
def deliver (slot : Slot r.Record) (g : Generation) (messages : List r.Message) : Slot r.Record :=
  messages.foldl (fun slot m => (slot.replace? g (r.listing m)).getD slot) slot

@[simp] theorem deliver_nil (slot : Slot r.Record) (g : Generation) :
    slot.deliver g ([] : List r.Message) = slot := rfl

theorem deliver_append (slot : Slot r.Record) (g : Generation) (first later : List r.Message) :
    slot.deliver g (first ++ later) = (slot.deliver g first).deliver g later := by
  simp [deliver]

theorem deliver_cons_of_eq {slot : Slot r.Record} {g : Generation}
    (h : slot.value.generation = g) (m : r.Message) (rest : List r.Message) :
    slot.deliver g (m :: rest) =
      deliver (slot.announce ⟨g, r.listing m, slot.value.sequence + 1⟩) g rest := by
  simp [deliver, replace?, h]

theorem deliver_of_ne {slot : Slot r.Record} {g : Generation}
    (h : slot.value.generation ≠ g) (messages : List r.Message) :
    slot.deliver g messages = slot := by
  induction messages with
  | nil => rfl
  | cons m rest ih => simpa [deliver, replace?, h] using ih

@[simp] theorem generation_deliver (slot : Slot r.Record) (g : Generation)
    (messages : List r.Message) :
    (slot.deliver g messages).value.generation = slot.value.generation := by
  by_cases h : slot.value.generation = g
  · induction messages generalizing slot with
    | nil => rfl
    | cons m rest ih =>
        rw [deliver_cons_of_eq h]
        exact (ih (slot.announce _) rfl).trans h.symm
  · rw [deliver_of_ne h]

/-- Each message counts one up. -/
theorem sequence_deliver {slot : Slot r.Record} {g : Generation}
    (h : slot.value.generation = g) (messages : List r.Message) :
    (slot.deliver g messages).value.sequence = slot.value.sequence + messages.length := by
  induction messages generalizing slot with
  | nil => rfl
  | cons m rest ih =>
      have hrest := @ih (slot.announce ⟨g, r.listing m, slot.value.sequence + 1⟩) rfl
      rw [deliver_cons_of_eq h, hrest, List.length_cons]
      change slot.value.sequence + 1 + rest.length = _
      omega

end Slot

namespace Reading

variable {r : Resource}

/-- The messages that come before the first failure. -/
def untilFailure : List r.Item → List r.Message
  | [] => []
  | .error _ :: _ => []
  | .ok m :: rest => m :: untilFailure rest

/-- The messages among `items` that a task of generation `g` puts into its slot. -/
def accepts (p : Reading r) (g : Generation) (items : List r.Item) : List r.Message :=
  if p.slot.value.generation = g then untilFailure items else []

theorem consume_fst (g : Generation) (closed : Bool) (items : List r.Item) (p : Reading r) :
    (consume g closed items p).1 =
      { slot := Slot.deliver p.slot g (p.accepts g items)
        reporter := (p.reporter.reportAll ((p.accepts g items).map fun _ => .streaming)).1
        reports := p.reports ++
          (p.reporter.reportAll ((p.accepts g items).map fun _ => .streaming)).2
        accepted := p.accepted + (p.accepts g items).length } := by
  by_cases h : p.slot.value.generation = g
  · induction items generalizing p with
    | nil => simp [consume, accepts, h, untilFailure]
    | cons item rest ih =>
        cases item with
        | error e => simp [consume, accepts, h, untilFailure]
        | ok m =>
            have haccept : p.accept? g m = some
                (report { p with
                  slot := p.slot.announce ⟨g, r.listing m, p.slot.value.sequence + 1⟩
                  accepted := p.accepted + 1 } .streaming) := by
              simp [accept?, Slot.replace?, h]
            simp only [consume, haccept]
            rw [ih _ rfl]
            simp [accepts, h, untilFailure, report, Slot.deliver_cons_of_eq h,
              Reporter.reportAll_cons, Nat.add_assoc, Nat.add_comm]
  · cases items with
    | nil => simp [consume, accepts, h]
    | cons item rest =>
        cases item with
        | error e => simp [consume, accepts, h]
        | ok m => simp [consume, accepts, h, accept?, Slot.replace?]

end Reading

end BrokerMonitor
