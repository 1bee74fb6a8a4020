import BrokerMonitor.Proofs.Delivery.Contents
/-!
# What a client meets

A client goes round a loop, and in each round it meets one thing: the cancellation of its token, a
message, a failure, or the end of its stream. `StreamTask.ahead` lists what it is going to meet, in
order: a cancellation stands before everything that waits in the stream. It accepts messages up to
the first encounter of any other kind, which ends it.

`turn_eq_of_attached` says that the turn of a task is this loop over what lies ahead of it.
-/

namespace BrokerMonitor

/-- What a client meets in one round of its loop. -/
inductive Encounter (r : Resource) where
  /-- Its token was cancelled. What waits in its stream is not looked at. -/
  | cancelled
  /-- A message, for a slot that is of the client's generation (`fresh`) or of another one. -/
  | message (m : r.Message) (fresh : Bool)
  | failure (e : StreamError)
  /-- The end of the stream. -/
  | finished

namespace Encounter

variable {r : Resource}

/-- The message that a client accepts. -/
def accepted? : Encounter r → Option r.Message
  | .message m true => some m
  | _ => none

/-- How the encounter ends a client that has accepted `count` messages. -/
def outcome? (count : Nat) : Encounter r → Option Outcome
  | .cancelled => some (.superseded count)
  | .message _ fresh => if fresh then none else some (.superseded count)
  | .failure e => some (.failed count e.message)
  | .finished => some (.completed count)

/-- The messages that a client accepts: all that it meets before anything else. -/
def accepted (met : List (Encounter r)) : List r.Message :=
  (met.takeWhile (·.accepted?.isSome)).filterMap (·.accepted?)

/-- The first encounter that is not with a message to accept. -/
def stopper? (met : List (Encounter r)) : Option (Encounter r) := met.find? (·.accepted?.isNone)

/-- How a client ends that had accepted `before` messages. It counts them and those that it accepts
now, and goes on if nothing stops it. -/
def ending (before : Nat) (met : List (Encounter r)) : Option Outcome :=
  (stopper? met).bind (·.outcome? (before + (accepted met).length))

theorem eq_of_accepted? {e : Encounter r} {m : r.Message} (h : e.accepted? = some m) :
    e = .message m true := by
  unfold accepted? at h
  split at h
  · exact congrArg (Encounter.message · true) (Option.some.inj h)
  · cases h

/-- Whatever is not accepted ends the client. -/
theorem outcome?_isSome {e : Encounter r} (he : e.accepted? = none) (count : Nat) :
    (e.outcome? count).isSome = true := by
  cases e with
  | message m fresh =>
      cases fresh with
      | true => cases he
      | false => rfl
  | _ => rfl

/-! ### One after the other -/

@[simp] theorem accepted_nil : accepted ([] : List (Encounter r)) = [] := rfl

@[simp] theorem ending_nil (before : Nat) : ending before ([] : List (Encounter r)) = none := rfl

theorem accepted_cons_message (m : r.Message) (rest : List (Encounter r)) :
    accepted (.message m true :: rest) = m :: accepted rest := rfl

theorem ending_cons_message (before : Nat) (m : r.Message) (rest : List (Encounter r)) :
    ending before (.message m true :: rest) = ending (before + 1) rest := by
  have hstopper : stopper? (.message m true :: rest) = stopper? rest := rfl
  rw [ending, ending, hstopper, accepted_cons_message, List.length_cons, Nat.add_assoc,
    Nat.add_comm 1]

theorem accepted_cons_of_stops {e : Encounter r} (he : e.accepted? = none)
    (rest : List (Encounter r)) : accepted (e :: rest) = [] := by
  simp [accepted, he]

theorem ending_cons_of_stops {e : Encounter r} (he : e.accepted? = none) (before : Nat)
    (rest : List (Encounter r)) : ending before (e :: rest) = e.outcome? before := by
  have hstopper : stopper? (e :: rest) = some e := by simp [stopper?, he]
  rw [ending, hstopper, accepted_cons_of_stops he]
  rfl

/-- A client that goes on has accepted everything, and comes to what follows. -/
theorem append_of_goes_on {met : List (Encounter r)} {before : Nat}
    (h : ending before met = none) (later : List (Encounter r)) :
    accepted (met ++ later) = accepted met ++ accepted later ∧
      ending before (met ++ later) = ending (before + (accepted met).length) later := by
  induction met generalizing before with
  | nil => exact ⟨rfl, rfl⟩
  | cons e rest ih =>
      cases he : e.accepted? with
      | none =>
          rw [ending_cons_of_stops he] at h
          cases h ▸ outcome?_isSome he before
      | some m =>
          obtain rfl := eq_of_accepted? he
          rw [ending_cons_message] at h
          obtain ⟨haccepted, hending⟩ := ih h
          rw [List.cons_append, accepted_cons_message, accepted_cons_message, ending_cons_message,
            haccepted, hending, List.length_cons]
          refine ⟨rfl, ?_⟩
          congr 1
          omega

/-- A client that has ended does not come to what follows. -/
theorem append_of_ended {met : List (Encounter r)} {before : Nat}
    (h : ending before met ≠ none) (later : List (Encounter r)) :
    accepted (met ++ later) = accepted met ∧
      ending before (met ++ later) = ending before met := by
  induction met generalizing before with
  | nil => exact absurd rfl h
  | cons e rest ih =>
      cases he : e.accepted? with
      | none =>
          simp only [List.cons_append, accepted_cons_of_stops he, ending_cons_of_stops he,
            and_self]
      | some m =>
          obtain rfl := eq_of_accepted? he
          rw [ending_cons_message] at h
          obtain ⟨haccepted, hending⟩ := ih h
          simp only [List.cons_append, accepted_cons_message, ending_cons_message, haccepted,
            hending, and_self]

/-! ### What a stream yields -/

/-- The encounter with what a stream yields. -/
def ofEvent (fresh : Bool) : StreamEvent r → Encounter r
  | .item (.ok m) => .message m fresh
  | .item (.error e) => .failure e
  | .finished => .finished

/-- Reading a feed is going round the loop over its contents. -/
theorem map_ofEvent_contents (fresh : Bool) (f : Feed r) (before : Nat) :
    accepted (f.contents.map (ofEvent fresh)) = Reading.takes fresh f.pending ∧
      ending before (f.contents.map (ofEvent fresh)) =
        Reading.ending fresh f.closed before f.pending := by
  have hitems : ∀ (items : List r.Item) (before : Nat),
      let events := items.map StreamEvent.item ++ if f.closed then [StreamEvent.finished] else []
      let met := events.map (ofEvent fresh)
      accepted met = Reading.takes fresh items ∧
        ending before met = Reading.ending fresh f.closed before items := by
    intro items
    induction items with
    | nil =>
        intro before
        cases hclosed : f.closed <;> cases fresh <;> exact ⟨rfl, rfl⟩
    | cons item rest ih =>
        intro before
        cases item with
        | error e => cases fresh <;> exact ⟨rfl, rfl⟩
        | ok m =>
            cases fresh with
            | false => exact ⟨rfl, rfl⟩
            | true =>
                obtain ⟨haccepted, hending⟩ := ih (before + 1)
                refine ⟨congrArg (List.cons m) haccepted, ?_⟩
                exact (ending_cons_message before m _).trans hending
  exact hitems f.pending before

end Encounter

/-- A backlog is read item by item: a break between any two items makes no difference. -/
theorem Reading.consume_append {r : Resource} (g : Generation) (closed : Bool)
    (first later : List r.Item) (p : Reading r) :
    consume g closed (first ++ later) p =
      match consume g false first p with
      | (p', none) => consume g closed later p'
      | (p', some outcome) => (p', some outcome) := by
  induction first generalizing p with
  | nil => rfl
  | cons item rest ih =>
      cases item with
      | error e => rfl
      | ok m =>
          simp only [List.cons_append, consume]
          cases p.accept? g m with
          | none => rfl
          | some p' => exact ih p'

/-- The phase of a task that has opened its stream. -/
def TaskPhase.ofEnding (held : Option Nat) : Option Outcome → TaskPhase
  | none => .reading held
  | some outcome => .ended (some outcome)

namespace StreamTask

variable {t : StreamTask} {h : Handle}

/-- What a task with an open stream is going to meet. A cancellation is looked for first. -/
def ahead {r : Resource} (t : StreamTask) (fresh : Bool) (feed : Option (Feed r)) :
    List (Encounter r) :=
  (if t.cancelled then [.cancelled] else []) ++
    ((feed.map Feed.contents).getD []).map (Encounter.ofEvent fresh)

/-- Going on is going round the loop over what lies ahead. -/
theorem goOn_eq {held : Option Nat} (hheld : t.phase = .reading held) (fresh : Bool)
    (feed : Option (Feed t.resource)) :
    let met := t.ahead fresh feed
    (t.goOn fresh feed).said = (Encounter.accepted met).map (fun _ => .streaming) ∧
      (t.goOn fresh feed).messages = Encounter.accepted met ∧
      (t.goOn fresh feed).phase = .ofEnding held (Encounter.ending t.accepted met) ∧
      (t.goOn fresh feed).requests = [] := by
  intro met
  rw [said_goOn]
  unfold goOn met ahead
  cases t.cancelled with
  | true => exact ⟨rfl, rfl, rfl, rfl⟩
  | false =>
      cases feed with
      | none => exact ⟨rfl, rfl, hheld, rfl⟩
      | some f =>
          obtain ⟨haccepted, hending⟩ := Encounter.map_ofEvent_contents fresh f t.accepted
          simp only [Bool.false_eq_true, if_false, List.nil_append, Option.map_some,
            Option.getD_some, haccepted, hending]
          cases Reading.ending fresh f.closed t.accepted f.pending with
          | none => exact ⟨rfl, rfl, hheld, rfl⟩
          | some outcome => exact ⟨rfl, rfl, rfl, rfl⟩

end StreamTask

namespace Monitor

variable {m : Monitor} {t : StreamTask} {h : Handle}

/-- What task `i`, which follows `r`, is going to meet when it is run. -/
def ahead (m : Monitor) (r : Resource) (i : Nat) : List (Encounter r) :=
  match m.tasks[i]? with
  | none => []
  | some t => t.ahead (m.fresh t) (m.feedAt r (m.reach t))

/-- A task over a connection says once that it is connecting, and opens its stream once. It takes
what it accepts of what lies ahead, says that it streams for each message, and ends as it has to. -/
theorem turn_eq_of_attached (m : Monitor) (htarget : t.target = some h)
    (hended : t.hasEnded = false) (haborted : t.aborted = false) :
    let met := t.ahead (m.fresh t) (m.feedAt t.resource (m.reach t))
    let starts := t.phase = .spawned
    (m.turn t).said = (if starts then [.connecting] else []) ++
        (Encounter.accepted met).map (fun _ => .streaming) ∧
      (m.turn t).messages = Encounter.accepted met ∧
      (m.turn t).phase = .ofEnding (m.reach t) (Encounter.ending t.accepted met) ∧
      (m.turn t).requests = if starts then [t.request h] else [] := by
  intro met starts
  by_cases hspawned : t.phase = .spawned
  · let opened : StreamTask := { t with phase := .reading (m.reach t) }
    have hturn : m.turn t = (t.opens h (m.reach t)).andThen
        (opened.goOn (m.fresh t) (m.feedAt t.resource (m.reach t))) := by
      simp [turn, StreamTask.turn, hended, haborted, hspawned, htarget, opened]
    obtain ⟨hsaid, hmessages, hphase, hrequests⟩ := StreamTask.goOn_eq (t := opened) rfl
      (m.fresh t) (m.feedAt t.resource (m.reach t))
    rw [hturn]
    simp only [starts, hspawned, if_true]
    exact ⟨congrArg (List.cons _) hsaid, hmessages, hphase, congrArg (List.cons _) hrequests⟩
  · have hturn : m.turn t = t.goOn (m.fresh t) (m.feedAt t.resource (m.reach t)) := by
      simp [turn, StreamTask.turn, hended, haborted, hspawned]
    have hheld : t.phase = .reading (m.reach t) := by
      cases hphase : t.phase with
      | spawned => exact absurd hphase hspawned
      | reading held => rw [m.reach_of_reading hphase]
      | ended outcome => simp [StreamTask.hasEnded, hphase] at hended
    rw [hturn]
    simp only [starts, hspawned, if_false]
    exact StreamTask.goOn_eq hheld _ _

end Monitor

end BrokerMonitor
