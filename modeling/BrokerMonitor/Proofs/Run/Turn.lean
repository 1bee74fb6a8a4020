import BrokerMonitor.Proofs.Run.Progress
/-!
# The turn of a stream task

A run of a stream task is decided by what is within its reach: the task itself, whether its slot
takes its messages, and the feed that it holds or is going to open. `StreamTask.turn` is what it
comes to, and `runStream_eq_turn` says that every run is the turn of its task. Two tasks that reach
for different feeds thus run independently of each other, but for what they report.

A task says at most one opening status and then `streaming` once for each message; its reporter
decides which of these are passed on.
-/

namespace BrokerMonitor

namespace Feeds

variable {r : Resource}

/-- Changes the feed at a place, if there is a place. -/
def alter (fs : Feeds r) (place : Option Nat) (f : Feed r → Feed r) : Feeds r :=
  match place with
  | some place => fs.modify place f
  | none => fs

@[simp] theorem alter_none (fs : Feeds r) (f : Feed r → Feed r) : fs.alter none f = fs := rfl

@[simp] theorem alter_id (fs : Feeds r) (place : Option Nat) : fs.alter place id = fs := by
  cases place <;> simp [alter]

theorem alter_alter (fs : Feeds r) (place : Option Nat) (f g : Feed r → Feed r) :
    (fs.alter place f).alter place g = fs.alter place (g ∘ f) := by
  cases place <;> simp [alter, List.modify_modify_eq]

end Feeds

/-- A stream opens the feed. -/
def Feed.hold {r : Resource} (f : Feed r) : Feed r := { f with reader := .held }

namespace Reading

variable {r : Resource}

/-- How reading some items ends, by a task that has put `accepted` messages into its slot before and
may put more there if the slot is `fresh`. -/
def ending (fresh closed : Bool) (accepted : Nat) : List r.Item → Option Outcome
  | [] => if closed then some (.completed accepted) else none
  | .error e :: _ => some (.failed accepted e.message)
  | .ok _ :: rest =>
    if fresh then ending fresh closed (accepted + 1) rest else some (.superseded accepted)

/-- The messages among some items that a task puts into its slot, if this takes them. -/
def takes (fresh : Bool) (items : List r.Item) : List r.Message :=
  if fresh then untilFailure items else []

theorem consume_snd (g : Generation) (closed : Bool) (items : List r.Item) (p : Reading r) :
    (consume g closed items p).2 =
      ending (decide (p.slot.value.generation = g)) closed p.accepted items := by
  induction items generalizing p with
  | nil => rfl
  | cons item rest ih =>
      cases item with
      | error e => rfl
      | ok m =>
          by_cases h : p.slot.value.generation = g
          · have haccept : p.accept? g m = some
                (report { p with
                  slot := p.slot.announce ⟨g, r.listing m, p.slot.value.sequence + 1⟩
                  accepted := p.accepted + 1 } .streaming) := by
              simp [accept?, Slot.replace?, h]
            simp [consume, haccept, ih, ending, h, report]
          · simp [consume, accept?, Slot.replace?, ending, h]

/-- A task goes on waiting if it has taken everything and more may come. -/
theorem ending_eq_none {fresh closed : Bool} {accepted : Nat} {items : List r.Item}
    (h : ending fresh closed accepted items = none) :
    closed = false ∧ (takes fresh items).map .ok = items := by
  induction items generalizing accepted with
  | nil =>
      cases closed with
      | false => exact ⟨rfl, by cases fresh <;> rfl⟩
      | true => cases h
  | cons item rest ih =>
      cases item with
      | error e => cases h
      | ok m =>
          cases fresh with
          | false => cases h
          | true =>
              obtain ⟨hclosed, hrest⟩ := ih h
              exact ⟨hclosed, congrArg (List.cons (Except.ok m)) hrest⟩

end Reading

/-- What one run of a task that follows `r` comes to, for all that the task can reach. -/
structure Turn (r : Resource) where
  /-- The statuses that the task says, news or not. -/
  said : List StreamStatus := []
  /-- The messages that it puts into its slot. -/
  messages : List r.Message := []
  phase : TaskPhase
  /-- What becomes of the feed within reach. -/
  feed : Feed r → Feed r := id
  requests : List StreamRequest := []

/-- A turn that goes on with another. -/
def Turn.andThen {r : Resource} (first later : Turn r) : Turn r where
  said := first.said ++ later.said
  messages := first.messages ++ later.messages
  phase := later.phase
  feed := later.feed ∘ first.feed
  requests := first.requests ++ later.requests

namespace StreamTask

/-- The task has not started yet, and it will when it is run. -/
def starts (t : StreamTask) : Bool := t.phase == .spawned && !t.aborted

theorem starts_eq_true_iff {t : StreamTask} :
    t.starts = true ↔ t.phase = .spawned ∧ t.aborted = false := by
  simp [starts]

theorem starts_of_reading {t : StreamTask} {held : Option Nat} (h : t.phase = .reading held) :
    t.starts = false := by
  simp [starts, h]

theorem hasEnded_of_spawned {t : StreamTask} (h : t.phase = .spawned) : t.hasEnded = false := by
  simp [hasEnded, h]

theorem hasEnded_of_reading {t : StreamTask} {held : Option Nat} (h : t.phase = .reading held) :
    t.hasEnded = false := by
  simp [hasEnded, h]

/-- The place of the feed that the next run works on: the one that the task is going to open, or the
one that it holds. -/
def reach (t : StreamTask) (fs : Feeds t.resource) : Option Nat :=
  if t.starts then t.target.bind fun h => fs.offered? h.endpoint.host else t.feed?

/-- The turn of a task whose stream is open. -/
def goOn (t : StreamTask) (fresh : Bool) (feed : Option (Feed t.resource)) : Turn t.resource :=
  if t.cancelled then { phase := .ended (some (.superseded t.accepted)), feed := (·.release) }
  else match feed with
    | none => { phase := t.phase }
    | some feed =>
      let messages := Reading.takes fresh feed.pending
      let said := messages.map fun _ => StreamStatus.streaming
      match Reading.ending fresh feed.closed t.accepted feed.pending with
      | none => { said, messages, phase := t.phase, feed := (·.drain) }
      | some outcome => { said, messages, phase := .ended (some outcome), feed := (·.release) }

/-- What holds of each kind of going on: a cancelled task ends, a task without a feed stays silent,
and a task with a feed takes what it holds, and waits for more or ends. -/
@[elab_as_elim]
theorem goOn_elim {t : StreamTask} {fresh : Bool} {feed : Option (Feed t.resource)}
    {motive : Turn t.resource → Prop}
    (cancelled : t.cancelled = true →
      motive { phase := .ended (some (.superseded t.accepted)), feed := (·.release) })
    (unfed : t.cancelled = false → feed = none → motive { phase := t.phase })
    (waits : ∀ f, t.cancelled = false → feed = some f → f.closed = false →
      (Reading.takes fresh f.pending).map .ok = f.pending →
      motive {
        said := (Reading.takes fresh f.pending).map fun _ => .streaming
        messages := Reading.takes fresh f.pending
        phase := t.phase
        feed := (·.drain) })
    (ends : ∀ f outcome, t.cancelled = false → feed = some f →
      Reading.ending fresh f.closed t.accepted f.pending = some outcome →
      motive {
        said := (Reading.takes fresh f.pending).map fun _ => .streaming
        messages := Reading.takes fresh f.pending
        phase := .ended (some outcome)
        feed := (·.release) }) :
    motive (t.goOn fresh feed) := by
  unfold goOn
  split
  · next hcancelled => exact cancelled hcancelled
  · next hcancelled =>
      have hcancelled : t.cancelled = false := by simpa using hcancelled
      cases feed with
      | none => exact unfed hcancelled rfl
      | some f =>
          dsimp only
          cases hending : Reading.ending fresh f.closed t.accepted f.pending with
          | none =>
              obtain ⟨hclosed, hall⟩ := Reading.ending_eq_none hending
              exact waits f hcancelled rfl hclosed hall
          | some outcome => exact ends f outcome hcancelled rfl hending

/-- A task says that it is connecting, and opens its stream. -/
def opens (t : StreamTask) (h : Handle) (place : Option Nat) : Turn t.resource where
  said := [.connecting]
  phase := .reading place
  feed := (·.hold)
  requests := [t.request h]

/-- The turn of a task: `fresh` tells whether its slot takes its messages, and `feed` is what is at
the `place` within reach. -/
def turn (t : StreamTask) (fresh : Bool) (place : Option Nat) (feed : Option (Feed t.resource)) :
    Turn t.resource :=
  if t.hasEnded then { phase := t.phase }
  else if t.aborted then { phase := .ended none, feed := (·.release) }
  else if t.phase = .spawned then
    match t.target with
    | none => { said := [.idle], phase := .ended (some .idle) }
    | some h => (t.opens h place).andThen ({ t with phase := .reading place }.goOn fresh feed)
  else t.goOn fresh feed

/-- What holds of each kind of turn. -/
@[elab_as_elim]
theorem turn_elim {t : StreamTask} {fresh : Bool} {place : Option Nat}
    {feed : Option (Feed t.resource)} {motive : Turn t.resource → Prop}
    (ended : t.hasEnded = true → motive { phase := t.phase })
    (aborted : t.hasEnded = false → t.aborted = true →
      motive { phase := .ended none, feed := (·.release) })
    (detached : t.phase = .spawned → t.aborted = false → t.target = none →
      motive { said := [.idle], phase := .ended (some .idle) })
    (attached : ∀ h, t.phase = .spawned → t.aborted = false → t.target = some h →
      motive ((t.opens h place).andThen ({ t with phase := .reading place }.goOn fresh feed)))
    (reading : ∀ held, t.phase = .reading held → t.aborted = false →
      motive (t.goOn fresh feed)) :
    motive (t.turn fresh place feed) := by
  have hphases : t.phase = .spawned ∨ (∃ held, t.phase = .reading held) ∨ t.hasEnded = true := by
    unfold hasEnded
    cases t.phase <;> simp
  unfold turn
  split
  · next hended => exact ended hended
  split
  · next hended haborted => exact aborted (by simpa using hended) haborted
  · next hended haborted =>
      have haborted : t.aborted = false := by simpa using haborted
      split
      · next hspawned =>
          split
          · next htarget => exact detached hspawned haborted htarget
          · next h htarget => exact attached h hspawned haborted htarget
      · next hspawned =>
          obtain ⟨held, hheld⟩ := (hphases.resolve_left hspawned).resolve_right hended
          exact reading held hheld haborted

/-- A task that goes on says that it streams for each message. -/
theorem said_goOn (t : StreamTask) (fresh : Bool) (feed : Option (Feed t.resource)) :
    (t.goOn fresh feed).said = (t.goOn fresh feed).messages.map fun _ => .streaming :=
  t.goOn_elim (fun _ => rfl) (fun _ _ => rfl) (fun _ _ _ _ _ => rfl) (fun _ _ _ _ _ => rfl)

/-- It takes messages only from a feed, and only if its slot takes them. -/
theorem fresh_of_messages_goOn {t : StreamTask} {fresh : Bool} {feed : Option (Feed t.resource)}
    (h : (t.goOn fresh feed).messages ≠ []) : fresh = true ∧ feed.isSome = true := by
  have htakes : ∀ items : List t.resource.Item, Reading.takes fresh items ≠ [] → fresh = true := by
    intro items hne
    cases fresh with
    | true => rfl
    | false => exact absurd rfl hne
  revert h
  refine t.goOn_elim ?_ ?_ ?_ ?_
  · exact fun _ h => absurd rfl h
  · exact fun _ _ h => absurd rfl h
  · exact fun f _ hf _ _ h => ⟨htakes _ h, by rw [hf]; rfl⟩
  · exact fun f _ _ hf _ h => ⟨htakes _ h, by rw [hf]; rfl⟩

/-- It goes on with the feed that it has, or it ends. -/
theorem phase_goOn (t : StreamTask) (fresh : Bool) (feed : Option (Feed t.resource)) :
    (t.goOn fresh feed).phase = t.phase ∨ ∃ outcome, (t.goOn fresh feed).phase = .ended outcome :=
  t.goOn_elim (fun _ => .inr ⟨_, rfl⟩) (fun _ _ => .inl rfl) (fun _ _ _ _ _ => .inl rfl)
    (fun _ _ _ _ _ => .inr ⟨_, rfl⟩)

end StreamTask

namespace Monitor

variable {m : Monitor} {i : Nat} {t : StreamTask}

/-- The slot of the task takes its messages. -/
def fresh (m : Monitor) (t : StreamTask) : Bool :=
  decide ((m.snapshot t.resource).generation = t.generation)

def reach (m : Monitor) (t : StreamTask) : Option Nat := t.reach (m.feeds.get t.resource)

/-- A task that starts reaches for the feed on offer for its host. -/
theorem reach_of_starts (m : Monitor) (h : t.starts = true) :
    m.reach t = t.target.bind fun h => (m.feeds.get t.resource).offered? h.endpoint.host :=
  if_pos h

/-- A task that reads reaches for the feed that it holds. -/
theorem reach_of_reading (m : Monitor) {held : Option Nat} (h : t.phase = .reading held) :
    m.reach t = held := by
  simp [reach, StreamTask.reach, StreamTask.starts_of_reading h, StreamTask.feed?, h]

/-- A task that was aborted reaches for nothing but what it holds. -/
theorem reach_of_aborted (m : Monitor) (h : t.aborted = true) : m.reach t = t.feed? := by
  simp [reach, StreamTask.reach, StreamTask.starts, h]

/-- The feed within the reach of the task. -/
def feedAt (m : Monitor) (r : Resource) (place : Option Nat) : Option (Feed r) :=
  place.bind fun place => (m.feeds.get r)[place]?

def turn (m : Monitor) (t : StreamTask) : Turn t.resource :=
  t.turn (m.fresh t) (m.reach t) (m.feedAt t.resource (m.reach t))

/-- The progress that a turn is, for a task that works on the feed at `place`. -/
def progressOf (m : Monitor) {r : Resource} (place : Option Nat) (turn : Turn r) : Progress r where
  said := turn.said
  messages := turn.messages
  phase := turn.phase
  feeds := m.feeds.modify r fun fs => fs.alter place turn.feed
  requests := m.requests.add turn.requests

theorem finish_eq_progressOf (ht : m.tasks[i]? = some t) (outcome : Option Outcome) :
    m.finish i t outcome = m.progress i t (m.progressOf t.feed?
      { phase := .ended outcome, feed := (·.release) }) := by
  rw [progressOf, progress_silent]
  cases hf : t.feed? <;>
    simp [finish, releaseFeed, modifyFeed, setPhase, hf, modify_tasks ht, Feeds.alter, Log.add,
      EachResource.modify_eq_self]

theorem progressOf_idle (m : Monitor) (place : Option Nat) (t : StreamTask) :
    m.progressOf (r := t.resource) place { phase := t.phase } =
      { phase := t.phase, feeds := m.feeds, requests := m.requests } := by
  simp [progressOf, Log.add, EachResource.modify_eq_self]

/-- A task that ends after some progress lets go of the feed that it has held from the start. -/
theorem finish_after (ht : m.tasks[i]? = some t) (p : Progress t.resource)
    (hphase : p.phase = t.phase) (outcome : Option Outcome) :
    (m.progress i t p).finish i t outcome = m.progress i t { p with
      phase := .ended outcome
      feeds := p.feeds.modify t.resource fun fs => fs.alter t.feed? (·.release) } := by
  let u := t.progress p.said p.messages.length p.phase
  have hfeed : u.feed? = t.feed? := by simp [u, StreamTask.feed?, StreamTask.progress, hphase]
  have hsame : (m.progress i t p).finish i t outcome = (m.progress i t p).finish i u outcome := by
    simp only [finish, releaseFeed, hfeed]
    rfl
  rw [hsame, finish_eq_progressOf (getElem?_tasks_progress ht p), hfeed]
  refine (progress_progress m i t p _).trans ?_
  simp [progressOf, Log.add]
  rfl

/-- A task with an open stream takes from its feed the messages that its slot accepts, says that it
streams for each of them, and ends where the feed gives it a reason to. -/
theorem readFeed_eq_progressOf (ht : m.tasks[i]? = some t) (hcancelled : t.cancelled = false)
    {place : Nat} (hfeed : t.feed? = some place) :
    m.readFeed i t place = m.progress i t (m.progressOf (some place)
      (t.goOn (m.fresh t) (m.feedAt t.resource (some place)))) := by
  cases hf : (m.feeds.get t.resource)[place]? with
  | none =>
      simp only [readFeed, hf, StreamTask.goOn, hcancelled, feedAt, Option.bind_some]
      rw [if_neg Bool.false_ne_true, progressOf_idle]
      exact progress_nothing ht
  | some feed =>
      let start : Reading t.resource := ⟨m.store.get t.resource, t.reporter, [], t.accepted⟩
      have haccepts : start.accepts t.generation feed.pending =
          Reading.takes (m.fresh t) feed.pending := by
        by_cases h : (m.snapshot t.resource).generation = t.generation
        · exact (if_pos h).trans (if_pos (decide_eq_true h)).symm
        · exact (if_neg h).trans (if_neg (by simpa [fresh] using h)).symm
      have hoverall : m.readFeed i t place =
          (let after := m.progress i t
            { said := (start.accepts t.generation feed.pending).map fun _ => .streaming
              messages := start.accepts t.generation feed.pending
              phase := t.phase
              feeds := m.feeds.modify t.resource fun fs => fs.modify place (·.drain)
              requests := m.requests }
          match Reading.ending (m.fresh t) feed.closed t.accepted feed.pending with
          | none => after
          | some outcome => after.finish i t (some outcome)) := by
        simp only [readFeed, hf, Reading.consume_fst, Reading.consume_snd, List.nil_append]
        rw [← tell_eq_progress ht]
        rfl
      rw [hoverall, haccepts]
      simp only [StreamTask.goOn, hcancelled, feedAt, Option.bind_some, hf]
      cases Reading.ending (m.fresh t) feed.closed t.accepted feed.pending with
      | none => simp [progressOf, Feeds.alter, Log.add]
      | some outcome =>
          refine (finish_after ht _ rfl _).trans ?_
          simp [progressOf, Feeds.alter, Log.add, hfeed, EachResource.modify_modify,
            Function.comp_def, List.modify_modify_eq, Feed.release, Feed.drain]

/-- A task goes on with the feed that it holds. -/
theorem continueStream_eq_progressOf (ht : m.tasks[i]? = some t) :
    m.continueStream i = m.progress i t (m.progressOf t.feed?
      (t.goOn (m.fresh t) (m.feedAt t.resource t.feed?))) := by
  simp only [continueStream, ht]
  split
  · next hcancelled =>
      rw [finish_eq_progressOf ht]
      simp [StreamTask.goOn, hcancelled]
  · next hcancelled =>
      have hcancelled : t.cancelled = false := by simpa using hcancelled
      split
      · next hfeed =>
          simp only [StreamTask.goOn, hcancelled, feedAt, hfeed, Option.bind_none]
          rw [if_neg Bool.false_ne_true, progressOf_idle]
          exact progress_nothing ht
      · next place hfeed =>
          rw [hfeed]
          exact readFeed_eq_progressOf ht hcancelled hfeed

/-- A task that goes on after a turn has made both turns. -/
theorem progress_progressOf (m : Monitor) (i : Nat) (t : StreamTask) (place : Option Nat)
    (first later : Turn t.resource) :
    (m.progress i t (m.progressOf place first)).progress i
      (t.progress first.said first.messages.length first.phase)
      ((m.progress i t (m.progressOf place first)).progressOf place later) =
    m.progress i t (m.progressOf place (first.andThen later)) := by
  refine (progress_progress m i t _ _).trans ?_
  simp [progressOf, progress, Turn.andThen, EachResource.modify_modify, Feeds.alter_alter,
    Function.comp_def, Log.add]

theorem openStream_eq_progressOf (ht : m.tasks[i]? = some t) {h : Handle} {place : Option Nat}
    (hplace : (m.feeds.get t.resource).offered? h.endpoint.host = place) :
    m.openStream i t h = m.progress i t (m.progressOf place
      { phase := .reading place, feed := (·.hold), requests := [t.request h] }) := by
  have hrequest : (t.request h).host = h.endpoint.host := rfl
  rw [progressOf, progress_silent]
  simp only [openStream, modify_tasks ht, hrequest, hplace]
  cases place with
  | none => simp [EachResource.modify_eq_self]
  | some place => rfl

/-- A task that starts over a connection says that it is connecting and opens its stream. -/
theorem open_eq_progressOf (ht : m.tasks[i]? = some t) {h : Handle} {place : Option Nat}
    (hplace : (m.feeds.get t.resource).offered? h.endpoint.host = place) :
    (m.reportFor i t .connecting).openStream i t h =
      m.progress i t (m.progressOf place (t.opens h place)) := by
  let reported : Progress t.resource :=
    { said := [.connecting], phase := t.phase, feeds := m.feeds, requests := m.requests }
  rw [reportFor_eq_progress ht]
  refine (openStream_eq_progressOf (getElem?_tasks_progress ht reported) hplace).trans ?_
  exact progress_progress m i t reported _

/-- Neither what a task has said nor who holds its feed matters for how it goes on. -/
theorem goOn_started (t : StreamTask) (said : List StreamStatus) (phase : TaskPhase) (fresh : Bool)
    (feed : Option (Feed t.resource)) :
    (t.progress said 0 phase).goOn fresh (feed.map (·.hold)) =
      { t with phase }.goOn fresh feed := by
  cases feed <;> rfl

/-- The turn of a task that starts over a connection: it opens its stream, and goes on with what its
feed already holds. -/
theorem start_eq_progressOf (ht : m.tasks[i]? = some t) {h : Handle} {place : Option Nat}
    (hplace : (m.feeds.get t.resource).offered? h.endpoint.host = place) :
    ((m.reportFor i t .connecting).openStream i t h).continueStream i =
      m.progress i t (m.progressOf place ((t.opens h place).andThen
        ({ t with phase := .reading place }.goOn (m.fresh t) (m.feedAt t.resource place)))) := by
  let opened := m.progress i t (m.progressOf place (t.opens h place))
  let u := t.progress [.connecting] 0 (.reading place)
  have hu : opened.tasks[i]? = some u := getElem?_tasks_progress ht _
  have hfresh : opened.fresh u = m.fresh t := by
    rw [fresh, fresh, decide_eq_decide]
    simp [snapshot, progress, progressOf, StreamTask.opens, opened, u]
  have hfeed : opened.feedAt t.resource place = (m.feedAt t.resource place).map (·.hold) := by
    cases place with
    | none => rfl
    | some place => simp [feedAt, Feeds.alter, opened, progress, progressOf, StreamTask.opens]
  have hturn : u.goOn (opened.fresh u) (opened.feedAt t.resource place) =
      { t with phase := .reading place }.goOn (m.fresh t) (m.feedAt t.resource place) := by
    rw [hfresh, hfeed]
    exact goOn_started t _ _ _ _
  have hgoOn : opened.continueStream i = opened.progress i u (opened.progressOf place
      (u.goOn (opened.fresh u) (opened.feedAt t.resource place))) := continueStream_eq_progressOf hu
  rw [open_eq_progressOf ht hplace, hgoOn, hturn]
  exact progress_progressOf m i t place _ _

/-- The run of a task is its turn. -/
theorem runStream_eq_turn (ht : m.tasks[i]? = some t) :
    m.runStream i = m.progress i t (m.progressOf (m.reach t) (m.turn t)) := by
  simp only [runStream, ht]
  split
  · next hended =>
      simp only [turn, StreamTask.turn, hended, if_true, progressOf_idle]
      exact progress_nothing ht
  split
  · next hended haborted =>
      rw [finish_eq_progressOf ht]
      rw [m.reach_of_aborted haborted]
      simp [turn, StreamTask.turn, hended, haborted]
  split
  · next hended haborted hspawned =>
      split
      · next htarget =>
          rw [reportFor_eq_progress ht, finish_after ht _ rfl]
          have hfeed : t.feed? = none := by simp [StreamTask.feed?, hspawned]
          simp [turn, StreamTask.turn, hended, haborted, hspawned, htarget, progressOf, hfeed,
            Log.add, EachResource.modify_eq_self]
      · next h htarget =>
          have hreach : m.reach t = (m.feeds.get t.resource).offered? h.endpoint.host := by
            rw [m.reach_of_starts (by simp [StreamTask.starts, hspawned, haborted]), htarget]
            rfl
          rw [start_eq_progressOf ht hreach.symm]
          simp [turn, StreamTask.turn, hended, haborted, hspawned, htarget]
  · next hended haborted hspawned =>
      rw [continueStream_eq_progressOf ht]
      simp [turn, StreamTask.turn, hended, haborted, hspawned, reach, StreamTask.reach,
        StreamTask.starts]

/-- The run of a task that there is not changes nothing. -/
theorem runStream_of_missing (h : m.tasks[i]? = none) : m.runStream i = m := by
  simp only [runStream, h]

/-- What holds if there is no such task, and if the task takes its turn, holds after a run. -/
@[elab_as_elim]
theorem runStream_elim {motive : Monitor → Prop} (m : Monitor) (i : Nat)
    (missing : m.tasks[i]? = none → motive m)
    (turn : ∀ t, m.tasks[i]? = some t →
      motive (m.progress i t (m.progressOf (m.reach t) (m.turn t)))) :
    motive (m.runStream i) := by
  cases ht : m.tasks[i]? with
  | none =>
      rw [runStream_of_missing ht]
      exact missing ht
  | some t =>
      rw [runStream_eq_turn ht]
      exact turn t ht

/-- Only the task that is run moves. -/
theorem getElem?_tasks_runStream_of_ne (m : Monitor) {j : Nat} (h : j ≠ i) :
    (m.runStream j).tasks[i]? = m.tasks[i]? :=
  m.runStream_elim j (fun _ => rfl) fun _ _ => List.getElem?_set_ne h

/-- A task that has ended stays as it is. -/
theorem turn_of_hasEnded (m : Monitor) (h : t.hasEnded = true) : m.turn t = { phase := t.phase } :=
  if_pos h

/-- A task that was aborted lets go of the feed that it holds, and ends. -/
theorem turn_of_aborted (m : Monitor) (hended : t.hasEnded = false) (h : t.aborted = true) :
    m.turn t = { phase := .ended none, feed := (·.release) } := by
  simp [turn, StreamTask.turn, hended, h]

@[simp] theorem observers_runStream (m : Monitor) (i : Nat) :
    (m.runStream i).observers = m.observers :=
  m.runStream_elim i (fun _ => rfl) (fun _ _ => rfl)

/-- What the progress of task `t` in a run can be. -/
structure Possible (m : Monitor) (t : StreamTask) (p : Progress t.resource) : Prop where
  /-- A task that had not started says its opening status first. From then on it says `streaming`
  for each message. -/
  said : ∃ first, p.said = first ++ p.messages.map (fun _ => .streaming) ∧
    (first = [] ∨ t.phase = .spawned ∧ first = [t.opening])
  /-- Only messages of the slot's own generation get into it. -/
  fresh : p.messages ≠ [] → (m.store.get t.resource).value.generation = t.generation
  /-- A task without a connection reads no feed, now or later. -/
  unfed : t.target = none → t.feed? = none →
    p.messages = [] ∧ (t.progress p.said p.messages.length p.phase).feed? = none

/-- Every turn is a possible progress. -/
theorem possible_turn (m : Monitor) (t : StreamTask) :
    Possible m t (m.progressOf (m.reach t) (m.turn t)) := by
  have hfresh : m.fresh t = true → (m.store.get t.resource).value.generation = t.generation :=
    of_decide_eq_true
  unfold turn
  refine StreamTask.turn_elim ?_ ?_ ?_ ?_ ?_
  · exact fun _ => ⟨⟨[], rfl, .inl rfl⟩, by simp [progressOf], fun _ h => ⟨rfl, h⟩⟩
  · exact fun _ _ => ⟨⟨[], rfl, .inl rfl⟩, by simp [progressOf], fun _ _ => ⟨rfl, rfl⟩⟩
  · intro hspawned _ htarget
    refine ⟨⟨[.idle], rfl, .inr ⟨hspawned, ?_⟩⟩, by simp [progressOf], fun _ _ => ⟨rfl, rfl⟩⟩
    simp [StreamTask.opening, htarget]
  · intro h hspawned _ htarget
    refine ⟨⟨[.connecting], ?_, .inr ⟨hspawned, ?_⟩⟩, ?_, fun hnone => ?_⟩
    · exact congrArg _ (StreamTask.said_goOn _ _ _)
    · simp [StreamTask.opening, htarget]
    · exact fun hne => hfresh
        (StreamTask.fresh_of_messages_goOn (t := { t with phase := .reading _ }) hne).1
    · simp [htarget] at hnone
  · intro held hheld haborted
    refine ⟨⟨[], StreamTask.said_goOn _ _ _, .inl rfl⟩, ?_, fun _ hfeed => ?_⟩
    · exact fun hne => hfresh (StreamTask.fresh_of_messages_goOn hne).1
    · have hreach : m.reach t = none := by
        simp [reach, StreamTask.reach, StreamTask.starts, hheld, hfeed]
      have hnone : m.feedAt t.resource (m.reach t) = none := by simp [hreach, feedAt]
      refine ⟨?_, ?_⟩
      · by_contra hne
        have hsome := (StreamTask.fresh_of_messages_goOn hne).2
        simp [hnone] at hsome
      · rcases t.phase_goOn (m.fresh t) (m.feedAt t.resource (m.reach t)) with hphase | ⟨o, hphase⟩
        · simpa [StreamTask.feed?, StreamTask.progress, progressOf, hphase] using hfeed
        · simp [StreamTask.feed?, StreamTask.progress, progressOf, hphase]

/-- Every run of a stream task is some progress of the task. -/
theorem exists_runStream_eq_progress (ht : m.tasks[i]? = some t) :
    ∃ p : Progress t.resource, m.runStream i = m.progress i t p ∧ Possible m t p :=
  ⟨_, runStream_eq_turn ht, m.possible_turn t⟩

/-- An observer that runs takes from its line, and the status stays as it is. -/
theorem exists_runObserver_eq (m : Monitor) (i : Nat) : ∃ board observers,
    m.runObserver i = { m with board, observers } ∧ board.current = m.board.current := by
  unfold runObserver
  split
  · exact ⟨m.board, m.observers, rfl, rfl⟩
  split
  · exact ⟨m.board, m.observers, rfl, rfl⟩
  split
  · exact ⟨_, _, rfl, m.board.current_unlisten _⟩
  · exact ⟨_, _, rfl, m.board.current_take _⟩

/-- Apart from the queue, a job that runs a stream task does what the task does. -/
theorem exists_run_stream_eq (m : Monitor) (i : Nat) :
    ∃ queue, m.run (.stream i) = { m.runStream i with queue } := by
  let n : Monitor := { m with queue := m.queue.erase (.stream i) }
  have hsame : n.runStream i = { m.runStream i with queue := n.queue } := by
    cases ht : m.tasks[i]? with
    | none =>
        simp only [runStream, n, ht]
    | some t =>
        have hn : n.runStream i = n.progress i t (n.progressOf (n.reach t) (n.turn t)) :=
          runStream_eq_turn ht
        rw [hn, runStream_eq_turn ht]
        rfl
  obtain ⟨queue, hqueue⟩ : ∃ queue, m.run (.stream i) = { n.runStream i with queue } := ⟨_, rfl⟩
  rw [hsame] at hqueue
  exact ⟨queue, hqueue⟩

@[simp] theorem observers_run_stream (m : Monitor) (i : Nat) :
    (m.run (.stream i)).observers = m.observers := by
  obtain ⟨queue, hrun⟩ := m.exists_run_stream_eq i
  rw [hrun]
  exact m.observers_runStream i

/-- A job that runs an observer's task leaves the status and everybody else as they are. -/
theorem exists_run_observer_eq (m : Monitor) (k : Nat) : ∃ board observers queue,
    m.run (.observer k) = { m with board, observers, queue } ∧
      board.current = m.board.current := by
  let n : Monitor := { m with queue := m.queue.erase (.observer k) }
  obtain ⟨board, observers, hrun, hcurrent⟩ := n.exists_runObserver_eq k
  obtain ⟨queue, hqueue⟩ : ∃ queue, m.run (.observer k) = { n.runObserver k with queue } :=
    ⟨_, rfl⟩
  rw [hrun] at hqueue
  exact ⟨board, observers, queue, hqueue, hcurrent⟩

/-- What the run of a task may change. -/
theorem exists_run_eq (m : Monitor) (j : Job) :
    ∃ tasks observers board store feeds requests queue,
      m.run j = { m with tasks, observers, board, store, feeds, requests, queue } := by
  cases j with
  | stream i =>
      obtain ⟨queue, hrun⟩ := m.exists_run_stream_eq i
      rw [hrun]
      exact m.runStream_elim i (fun _ => ⟨_, _, _, _, _, _, _, rfl⟩)
        fun _ _ => ⟨_, _, _, _, _, _, _, rfl⟩
  | observer k =>
      obtain ⟨board, observers, queue, hrun, -⟩ := m.exists_run_observer_eq k
      exact ⟨_, _, _, _, _, _, _, hrun⟩

end Monitor

end BrokerMonitor
