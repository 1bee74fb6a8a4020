import BrokerMonitor.Proofs.Client.Encounters
import BrokerMonitor.Proofs.Client.Visits
import BrokerMonitor.Proofs.Ending.Clients
/-!
# The life of a client

A client is run again and again, and meets a piece of its stream at each visit. `Lived` says where
that has brought it: it has gone round its loop over everything that it has met, all visits taken
together. `Idled` says the same of a client without a connection, which meets nothing. Both laws
last, so they hold after any run of actions (`client_keeps_to_its_stream`).
-/

namespace BrokerMonitor

namespace Reporter

/-- A client over a connection says that it is connecting, and then that it streams for each of
`count` messages. The first of these is news, and no other. -/
theorem reportAll_connecting_streaming {r : Reporter} (h : r.last = none) (count : Nat) :
    (r.reportAll (.connecting :: List.replicate count .streaming)).2 =
      ⟨r.resource, r.generation, .connecting⟩ ::
        if count = 0 then [] else [⟨r.resource, r.generation, .streaming⟩] := by
  have hsilent : ∀ (q : Reporter) (count : Nat), q.last = some .streaming →
      (q.reportAll (List.replicate count .streaming)).2 = [] := by
    intro q count hq
    induction count with
    | zero => rfl
    | succ count ih =>
        have hnot : ¬ StreamStatus.streaming < .streaming := by decide
        have hsame : q.report .streaming = (q, none) := by simp [report, isNews, hq, hnot]
        rw [List.replicate_succ, reportAll_cons, hsame]
        exact ih
  have hfirst : r.report .connecting =
      ({ r with last := some .connecting }, some ⟨r.resource, r.generation, .connecting⟩) := by
    simp [report, isNews, h]
  rw [reportAll_cons, hfirst]
  cases count with
  | zero => rfl
  | succ count =>
      have hnews : ({ r with last := some .connecting } : Reporter).report .streaming =
          ({ r with last := some .streaming },
            some ⟨r.resource, r.generation, .streaming⟩) := rfl
      rw [List.replicate_succ, reportAll_cons, hnews, hsilent _ count rfl]
      rfl

end Reporter

namespace StreamTask

/-- The task as it was when it was made. -/
def origin (t : StreamTask) : StreamTask :=
  { t with
    reporter := { t.reporter with last := none }
    log := {}
    accepted := 0
    cancelled := false
    aborted := false
    phase := .spawned }

@[simp] theorem origin_progress (t : StreamTask) (said : List StreamStatus) (count : Nat)
    (phase : TaskPhase) : (t.progress said count phase).origin = t.origin := by
  simp [origin, progress]

theorem origin_of_core {t t' : StreamTask} (h : t'.core = t.core) : t'.origin = t.origin := by
  have horigin : t'.core.origin = t.core.origin := congrArg origin h
  exact horigin

theorem fields_of_core {t t' : StreamTask} (h : t'.core = t.core) :
    t'.reporter = t.reporter ∧ t'.accepted = t.accepted ∧ t'.phase = t.phase := by
  have hreporter : t'.core.reporter = t.core.reporter := congrArg _ h
  have haccepted : t'.core.accepted = t.core.accepted := congrArg _ h
  have hphase : t'.core.phase = t.core.phase := congrArg _ h
  exact ⟨hreporter, haccepted, hphase⟩

/-- The reports that a task tells go to its log, if it keeps one. -/
theorem entries_progress_of_log {t : StreamTask} (h : t.audience = .log)
    (said : List StreamStatus) (count : Nat) (phase : TaskPhase) :
    (t.progress said count phase).log.entries = t.log.entries ++ t.passedOn said := by
  simp [progress, h]

end StreamTask

namespace Monitor

variable {m : Monitor} {i : Nat} {t : StreamTask} {V : List Monitor}

/-- What task `i` passes on when it is run. -/
def emits (m : Monitor) (i : Nat) : List Report :=
  match m.tasks[i]? with
  | none => []
  | some t => t.passedOn (m.turn t).said

/-- What task `i`, which follows `r`, has met at some visits. -/
def encounters (r : Resource) (i : Nat) (V : List Monitor) : List (Encounter r) :=
  V.flatMap (·.ahead r i)

/-- What task `i` has passed on at some visits. -/
def emitted (i : Nat) (V : List Monitor) : List Report := V.flatMap (·.emits i)

theorem encounters_concat (r : Resource) (i : Nat) (V : List Monitor) (m : Monitor) :
    encounters r i (V ++ [m]) = encounters r i V ++ m.ahead r i := by
  simp [encounters]

theorem emitted_concat (ht : m.tasks[i]? = some t) (V : List Monitor) :
    emitted i (V ++ [m]) = emitted i V ++ t.passedOn (m.turn t).said := by
  simp [emitted, emits, ht]

/-- The run of task `i` tells its reports to its audience, puts the messages `taken` into its slot
one after the other, and opens the streams `opened`. Besides this it concerns nothing but the task
itself, the feed that it reads, and the queue. -/
def Runs (m : Monitor) (i : Nat) {r : Resource} (g : Generation) (audience : Audience)
    (taken : List r.Message) (opened : List StreamRequest) : Prop :=
  ∃ t place change queue, m.run (.stream i) = { m with
    tasks := m.tasks.set i t
    board := match audience with
      | .board => m.board.reportAll (m.emits i)
      | .log => m.board
    store := m.store.set r (Slot.deliver (m.store.get r) g taken)
    feeds := m.feeds.modify r (·.alter place change)
    requests := m.requests.add opened
    queue }

theorem runs_turn (ht : m.tasks[i]? = some t) :
    m.Runs i t.generation t.audience (m.turn t).messages (m.turn t).requests := by
  obtain ⟨queue, hrun⟩ := run_stream_eq ht
  refine ⟨m.advance t, m.reach t, (m.turn t).feed, queue, hrun.trans ?_⟩
  have hemits : m.emits i = t.passedOn (m.turn t).said := by simp [emits, ht]
  rw [hemits]
  rfl

/-- The run of a task that has ended concerns nothing but the queue. -/
theorem run_of_hasEnded (ht : m.tasks[i]? = some t) (hended : t.hasEnded = true) :
    ∃ queue, m.run (.stream i) = { m with queue } := by
  obtain ⟨queue, hrun⟩ := run_stream_eq ht
  rw [turn_of_hasEnded m hended, progressOf_idle, ← progress_nothing ht] at hrun
  exact ⟨queue, hrun⟩

theorem advance_of_hasEnded (ht : m.tasks[i]? = some t) (hended : t.hasEnded = true) :
    m.advance t = t := by
  obtain ⟨queue, hrun⟩ := run_of_hasEnded ht hended
  have hafter := getElem?_tasks_run_stream ht
  rw [hrun] at hafter
  exact Option.some.inj (hafter.symm.trans ht)

/-! ### Over a connection -/

/-- What a client over a connection has said after some visits. -/
def saidIn (r : Resource) (i : Nat) (V : List Monitor) : List StreamStatus :=
  if V = [] then []
  else .connecting :: List.replicate (Encounter.accepted (encounters r i V)).length .streaming

/-- Where a client over a connection is after some visits. -/
structure Lived (i : Nat) (r : Resource) (h : Handle) (rate : UInt32) (audience : Audience)
    (V : List Monitor) (t : StreamTask) : Prop where
  origin : t.origin = .attached r h rate audience
  reports : (t.reporter, emitted i V) =
    Reporter.reportAll { resource := r, generation := h.generation } (saidIn r i V)
  log : audience = .log → t.log.entries = emitted i V
  accepted : t.accepted = (Encounter.accepted (encounters r i V)).length
  unvisited : V = [] → t.phase = .spawned
  visited : V ≠ [] → ∃ held, t.phase = .ofEnding held (Encounter.ending 0 (encounters r i V))

namespace Lived

variable {r : Resource} {h : Handle} {rate : UInt32} {audience : Audience}

theorem start (i : Nat) (r : Resource) (h : Handle) (rate : UInt32) (audience : Audience) :
    Lived i r h rate audience [] (.attached r h rate audience) where
  origin := rfl
  reports := rfl
  log _ := rfl
  accepted := rfl
  unvisited _ := rfl
  visited hne := absurd rfl hne

theorem resource (hl : Lived i r h rate audience V t) : t.resource = r :=
  congrArg StreamTask.resource hl.origin

theorem audience_eq (hl : Lived i r h rate audience V t) : t.audience = audience :=
  congrArg StreamTask.audience hl.origin

theorem target (hl : Lived i r h rate audience V t) : t.target = some h :=
  congrArg StreamTask.target hl.origin

theorem generation (hl : Lived i r h rate audience V t) : t.generation = h.generation :=
  congrArg StreamTask.generation hl.origin

/-- It has ended if something that it met made it end, and as that says. -/
theorem outcome? (hl : Lived i r h rate audience V t) :
    t.outcome? = Encounter.ending 0 (encounters r i V) ∧
      (t.hasEnded = true ↔ (Encounter.ending 0 (encounters r i V)).isSome = true) := by
  by_cases hV : V = []
  · have hphase := hl.unvisited hV
    subst hV
    simp [StreamTask.outcome?, StreamTask.hasEnded, hphase, encounters]
  · obtain ⟨held, hphase⟩ := hl.visited hV
    cases hending : Encounter.ending 0 (encounters r i V) with
    | none => simp [StreamTask.outcome?, StreamTask.hasEnded, hphase, hending, TaskPhase.ofEnding]
    | some outcome =>
        simp [StreamTask.outcome?, StreamTask.hasEnded, hphase, hending, TaskPhase.ofEnding]

theorem hasEnded_eq_false (hl : Lived i r h rate audience V t)
    (hgoes : Encounter.ending 0 (encounters r i V) = none) : t.hasEnded = false := by
  have hended := hl.outcome?.2
  simpa [hgoes] using hended

/-- It has started at the first visit. -/
theorem spawned_iff (hl : Lived i r h rate audience V t) : t.phase = .spawned ↔ V = [] := by
  constructor
  · intro hspawned
    by_contra hV
    obtain ⟨held, hphase⟩ := hl.visited hV
    cases hending : Encounter.ending 0 (encounters r i V) with
    | none => simp [hspawned, hending, TaskPhase.ofEnding] at hphase
    | some outcome => simp [hspawned, hending, TaskPhase.ofEnding] at hphase
  · exact hl.unvisited

/-- A client that has not ended accepts what lies ahead of it, up to what ends it. At its first
visit it says that it is connecting and opens its stream. -/
theorem turn (hl : Lived i r h rate audience V t) (ht : m.tasks[i]? = some t)
    (haborted : t.aborted = false) (hgoes : Encounter.ending 0 (encounters r i V) = none) :
    let taken := Encounter.accepted (m.ahead r i)
    (m.turn t).said = (if V = [] then [.connecting] else []) ++
        List.replicate taken.length .streaming ∧
      m.Runs i h.generation audience taken (if V = [] then [t.request h] else []) ∧
      (m.turn t).messages.length = taken.length ∧
      (m.turn t).phase = .ofEnding (m.reach t) (Encounter.ending t.accepted (m.ahead r i)) := by
  obtain rfl := hl.resource
  have hahead : m.ahead t.resource i = t.ahead (m.fresh t) (m.feedAt t.resource (m.reach t)) := by
    simp [ahead, ht]
  obtain ⟨hsaid, hmessages, hphase, hrequests⟩ :=
    m.turn_eq_of_attached hl.target (hl.hasEnded_eq_false hgoes) haborted
  have hruns := runs_turn ht
  rw [hl.generation, hl.audience_eq, hmessages, hrequests, ← hahead] at hruns
  simp only [hl.spawned_iff] at hsaid hruns
  intro taken
  refine ⟨?_, hruns, ?_, ?_⟩
  · rw [hsaid, ← hahead, List.map_const']
  · rw [hmessages, ← hahead]
  · rw [hphase, ← hahead]

/-- A client that has ended is left as it is by another visit, whatever lies ahead of it. -/
theorem of_ended (hl : Lived i r h rate audience V t) (ht : m.tasks[i]? = some t)
    (hends : Encounter.ending 0 (encounters r i V) ≠ none) :
    V ≠ [] ∧ t.hasEnded = true ∧ m.advance t = t ∧
      Encounter.accepted (encounters r i (V ++ [m])) = Encounter.accepted (encounters r i V) ∧
      Encounter.ending 0 (encounters r i (V ++ [m])) = Encounter.ending 0 (encounters r i V) := by
  have hended : t.hasEnded = true := hl.outcome?.2.mpr (Option.isSome_iff_ne_none.mpr hends)
  have hV : V ≠ [] := by
    rintro rfl
    exact hends rfl
  rw [encounters_concat]
  exact ⟨hV, hended, advance_of_hasEnded ht hended, Encounter.append_of_ended hends _⟩

/-- What a visit to the client does. -/
theorem runs (hl : Lived i r h rate audience V t) (ht : m.tasks[i]? = some t)
    (haborted : t.aborted = false) :
    match Encounter.ending 0 (encounters r i V) with
    | none => m.Runs i h.generation audience (Encounter.accepted (m.ahead r i))
        (if V = [] then [(StreamTask.attached r h rate audience).request h] else [])
    | some _ => ∃ queue, m.run (.stream i) = { m with queue } := by
  have hrequest : t.request h = (StreamTask.attached r h rate audience).request h := by
    change t.origin.request h = _
    rw [hl.origin]
  cases hending : Encounter.ending 0 (encounters r i V) with
  | none =>
      obtain ⟨-, hruns, -⟩ := hl.turn ht haborted hending
      rw [hrequest] at hruns
      exact hruns
  | some outcome =>
      obtain ⟨-, hended, -⟩ := hl.of_ended ht (by simp [hending])
      exact run_of_hasEnded ht hended

/-- What a client has passed on: that it is connecting, and that it streams if it has accepted a
message. -/
theorem emitted_eq (hl : Lived i r h rate audience V t) : emitted i V =
    (if V = [] then [] else [⟨r, h.generation, .connecting⟩]) ++
      (if Encounter.accepted (encounters r i V) = [] then []
        else [⟨r, h.generation, .streaming⟩]) := by
  have hreports : emitted i V = _ := congrArg Prod.snd hl.reports
  rw [hreports, saidIn]
  by_cases hV : V = []
  · subst hV
    rfl
  · rw [if_neg hV, if_neg hV, Reporter.reportAll_connecting_streaming rfl]
    simp only [List.length_eq_zero_iff]
    rfl

/-- Each visit adds what the client says in it. -/
theorem saidIn_concat (hl : Lived i r h rate audience V t) (ht : m.tasks[i]? = some t)
    (haborted : t.aborted = false) : saidIn r i (V ++ [m]) = saidIn r i V ++ (m.turn t).said := by
  have hne : V ++ [m] ≠ [] := by simp
  by_cases hgoes : Encounter.ending 0 (encounters r i V) = none
  · obtain ⟨hsaid, -⟩ := hl.turn ht haborted hgoes
    obtain ⟨haccepted, -⟩ := Encounter.append_of_goes_on hgoes (m.ahead r i)
    rw [hsaid, saidIn, if_neg hne, encounters_concat, haccepted]
    by_cases hV : V = []
    · subst hV
      simp [saidIn, encounters]
    · simp [saidIn, hV]
  · obtain ⟨hV, hended, -, haccepted, -⟩ := hl.of_ended ht hgoes
    rw [turn_of_hasEnded m hended, List.append_nil, saidIn, saidIn, if_neg hne, if_neg hV,
      haccepted]

theorem accepted_concat (hl : Lived i r h rate audience V t) (ht : m.tasks[i]? = some t)
    (haborted : t.aborted = false) :
    (m.advance t).accepted = (Encounter.accepted (encounters r i (V ++ [m]))).length := by
  by_cases hgoes : Encounter.ending 0 (encounters r i V) = none
  · obtain ⟨-, -, hcount, -⟩ := hl.turn ht haborted hgoes
    obtain ⟨haccepted, -⟩ := Encounter.append_of_goes_on hgoes (m.ahead r i)
    rw [encounters_concat, haccepted, List.length_append, ← hl.accepted, ← hcount]
    rfl
  · obtain ⟨-, -, hsame, haccepted, -⟩ := hl.of_ended ht hgoes
    rw [hsame, haccepted]
    exact hl.accepted

theorem phase_concat (hl : Lived i r h rate audience V t) (ht : m.tasks[i]? = some t)
    (haborted : t.aborted = false) : ∃ held, (m.advance t).phase =
      .ofEnding held (Encounter.ending 0 (encounters r i (V ++ [m]))) := by
  by_cases hgoes : Encounter.ending 0 (encounters r i V) = none
  · obtain ⟨-, -, -, hphase⟩ := hl.turn ht haborted hgoes
    obtain ⟨-, hending⟩ := Encounter.append_of_goes_on hgoes (m.ahead r i)
    rw [encounters_concat, hending, Nat.zero_add, ← hl.accepted]
    exact ⟨m.reach t, hphase⟩
  · obtain ⟨hV, -, hsame, -, hending⟩ := hl.of_ended ht hgoes
    rw [hsame, hending]
    exact hl.visited hV

end Lived

/-- A client keeps to what it meets. -/
theorem lasts_lived (i : Nat) (r : Resource) (h : Handle) (rate : UInt32) (audience : Audience) :
    Lasts i (Lived i r h rate audience) where
  marks := by
    intro V t t' hl hcore hlog
    obtain ⟨hreporter, haccepted, hphase⟩ := StreamTask.fields_of_core hcore
    constructor
    · exact (StreamTask.origin_of_core hcore).trans hl.origin
    · rw [hreporter]
      exact hl.reports
    · exact fun ha => hlog.trans (hl.log ha)
    · exact haccepted.trans hl.accepted
    · exact fun hV => hphase.trans (hl.unvisited hV)
    · rw [hphase]
      exact hl.visited
  visit := by
    intro V m t hl ht haborted
    have hsaid := hl.saidIn_concat ht haborted
    constructor
    · exact (t.origin_progress _ _ _).trans hl.origin
    · rw [hsaid, Reporter.reportAll_append, ← hl.reports, emitted_concat ht]
      rfl
    · intro ha
      rw [emitted_concat ht, ← hl.log ha]
      exact StreamTask.entries_progress_of_log (hl.audience_eq.trans ha) _ _ _
    · exact hl.accepted_concat ht haborted
    · simp
    · exact fun _ => hl.phase_concat ht haborted

/-! ### Without a connection -/

/-- Where a client without a connection is after some visits. -/
structure Idled (i : Nat) (r : Resource) (g : Generation) (audience : Audience)
    (V : List Monitor) (t : StreamTask) : Prop where
  origin : t.origin = .detached r g audience
  emitted : emitted i V = if V = [] then [] else [⟨r, g, .idle⟩]
  log : audience = .log → t.log.entries = Monitor.emitted i V
  accepted : t.accepted = 0
  unvisited : V = [] → t.phase = .spawned ∧ t.reporter = { resource := r, generation := g }
  visited : V ≠ [] → t.phase = .ended (some .idle)

namespace Idled

variable {r : Resource} {g : Generation} {audience : Audience}

theorem start (i : Nat) (r : Resource) (g : Generation) (audience : Audience) :
    Idled i r g audience [] (.detached r g audience) where
  origin := rfl
  emitted := rfl
  log _ := rfl
  accepted := rfl
  unvisited _ := ⟨rfl, rfl⟩
  visited hne := absurd rfl hne

theorem outcome? (hl : Idled i r g audience V t) :
    t.outcome? = (if V = [] then none else some .idle) ∧ (t.hasEnded = true ↔ V ≠ []) := by
  by_cases hV : V = []
  · simp [StreamTask.outcome?, StreamTask.hasEnded, hV, (hl.unvisited hV).1]
  · simp [StreamTask.outcome?, StreamTask.hasEnded, hV, hl.visited hV]

end Idled

theorem turn_of_detached (m : Monitor) (hspawned : t.phase = .spawned)
    (haborted : t.aborted = false) (htarget : t.target = none) :
    m.turn t = { said := [.idle], phase := .ended (some .idle) } := by
  have hended : t.hasEnded = false := StreamTask.hasEnded_of_spawned hspawned
  simp [turn, StreamTask.turn, hended, haborted, hspawned, htarget]

/-- What a visit to a client without a connection does. -/
theorem Idled.runs {r : Resource} {g : Generation} {audience : Audience}
    (hl : Idled i r g audience V t) (ht : m.tasks[i]? = some t) (haborted : t.aborted = false) :
    (m.run (.stream i)).feeds = m.feeds ∧
      if V = [] then m.Runs i g audience ([] : List r.Message) []
      else ∃ queue, m.run (.stream i) = { m with queue } := by
  obtain rfl : t.resource = r := congrArg StreamTask.resource hl.origin
  have hgeneration : t.generation = g := congrArg StreamTask.generation hl.origin
  have haudience : t.audience = audience := congrArg StreamTask.audience hl.origin
  by_cases hV : V = []
  · have hturn := m.turn_of_detached (hl.unvisited hV).1 haborted
      (congrArg StreamTask.target hl.origin)
    have hruns := runs_turn ht
    rw [hturn, hgeneration, haudience] at hruns
    obtain ⟨queue, hrun⟩ := run_stream_eq ht
    rw [if_pos hV, hrun, hturn]
    refine ⟨?_, hruns⟩
    simp [progress, progressOf, EachResource.modify_eq_self]
  · have hended : t.hasEnded = true := by simp [StreamTask.hasEnded, hl.visited hV]
    obtain ⟨queue, hrun⟩ := run_of_hasEnded ht hended
    rw [if_neg hV, hrun]
    exact ⟨rfl, queue, rfl⟩

/-- It says that it is idle at its first visit, and nothing more happens to it. -/
theorem lasts_idled (i : Nat) (r : Resource) (g : Generation) (audience : Audience) :
    Lasts i (Idled i r g audience) where
  marks := by
    intro V t t' hl hcore hlog
    obtain ⟨hreporter, haccepted, hphase⟩ := StreamTask.fields_of_core hcore
    constructor
    · exact (StreamTask.origin_of_core hcore).trans hl.origin
    · exact hl.emitted
    · exact fun ha => hlog.trans (hl.log ha)
    · exact haccepted.trans hl.accepted
    · rw [hphase, hreporter]
      exact hl.unvisited
    · exact fun hV => hphase.trans (hl.visited hV)
  visit := by
    intro V m t hl ht haborted
    have haudience : t.audience = audience := congrArg StreamTask.audience hl.origin
    by_cases hV : V = []
    · obtain ⟨hspawned, hreporter⟩ := hl.unvisited hV
      have hturn := m.turn_of_detached hspawned haborted
        (congrArg StreamTask.target hl.origin)
      have hpassed : t.passedOn (m.turn t).said = [⟨r, g, .idle⟩] := by
        rw [hturn, StreamTask.passedOn, hreporter]
        rfl
      constructor
      · exact (t.origin_progress _ _ _).trans hl.origin
      · rw [emitted_concat ht, hl.emitted, hpassed, if_pos hV, if_neg (by simp)]
        rfl
      · intro ha
        rw [emitted_concat ht, ← hl.log ha]
        exact StreamTask.entries_progress_of_log (haudience.trans ha) _ _ _
      · rw [advance, hturn]
        exact hl.accepted
      · simp
      · intro _
        rw [advance, hturn]
        rfl
    · have hended : t.hasEnded = true := by simp [StreamTask.hasEnded, hl.visited hV]
      have hpassed : t.passedOn (m.turn t).said = [] := by
        rw [turn_of_hasEnded m hended]
        rfl
      rw [advance_of_hasEnded ht hended]
      constructor
      · exact hl.origin
      · simp [emitted_concat ht, hl.emitted, hV, hpassed]
      · intro ha
        rw [emitted_concat ht, hpassed, List.append_nil]
        exact hl.log ha
      · exact hl.accepted
      · simp
      · exact fun _ => hl.visited hV

/-- Tasks stay with their audience. -/
theorem audience_of_leads {m' : Monitor} {u : StreamTask} (h : m.Leads m')
    (ht : m.tasks[i]? = some t) (hu : m'.tasks[i]? = some u) : u.audience = t.audience := by
  have hkept : m.tasks.map (·.audience) <+: m'.tasks.map (·.audience) := by
    clear hu
    induction h with
    | refl => exact List.prefix_rfl
    | tail _ step ih => exact ih.trans step.audiences
  obtain ⟨later, happend⟩ := hkept
  obtain ⟨hlt, -⟩ := List.getElem?_eq_some_iff.mp ht
  have hsame : (m'.tasks.map (·.audience))[i]? = (m.tasks.map (·.audience))[i]? := by
    rw [← happend, List.getElem?_append_left (by simpa using hlt)]
  rw [List.getElem?_map, List.getElem?_map, ht, hu] at hsame
  exact Option.some.inj hsame

end Monitor

namespace Session

/-- A client does what its stream, its token and its slot make it do. Take any session in which a
client has just been made, and any run of actions: items come in, the token is cancelled and the
slot moves on between any two of its visits.

A client over a connection first says that it is connecting, says once that it streams if it has
accepted a message, and says nothing else. It accepts the messages that it meets before anything
else: a failure, the end, a cancellation, which it meets before whatever waits in its stream, or a
message for a slot of another generation. What it meets then is how it ends, with the text of the
failure and the number of messages that it has accepted. Until then each visit puts the messages
accepted in it into the slot, one after the other, and the first one opens the stream. From then on
a visit concerns nothing but the queue.

A client without a connection says at its first visit that it is idle and ends, whether it was
cancelled or not. It opens no stream, and no visit to it concerns a feed or a slot.

This holds as long as the task is not aborted when it is run, and a client never is. A backlog is
read item by item, so what happens between two items may as well happen between two visits. -/
theorem client_keeps_to_its_stream (s : Session) (i : Nat) (r : Resource) (audience : Audience)
    (run : List Action) :
    let visits := s.visits i run
    let emitted := Monitor.emitted i visits
    let met := Monitor.encounters r i visits
    let accepted := Encounter.accepted met
    let after := (s.actAll run).monitor
    (∀ (h : Handle) (rate : UInt32), s.monitor.tasks[i]? = some (.attached r h rate audience) →
      (∀ n ∈ visits, n.Spares i) → ∃ t, after.tasks[i]? = some t ∧
        emitted = (if visits = [] then [] else [⟨r, h.generation, .connecting⟩]) ++
          (if accepted = [] then [] else [⟨r, h.generation, .streaming⟩]) ∧
        (audience = .log → t.log.entries = emitted) ∧
        t.accepted = accepted.length ∧
        t.outcome? = Encounter.ending 0 met ∧
        (t.hasEnded = true ↔ (Encounter.ending 0 met).isSome = true) ∧
        ∀ (k : Nat) (n : Monitor), visits[k]? = some n →
          match Encounter.ending 0 (Monitor.encounters r i (visits.take k)) with
          | none => n.Runs i h.generation audience (Encounter.accepted (n.ahead r i))
              (if k = 0 then [StreamTask.request (.attached r h rate audience) h] else [])
          | some _ => ∃ queue, n.run (.stream i) = { n with queue }) ∧
    (∀ g : Generation, s.monitor.tasks[i]? = some (.detached r g audience) →
      (∀ n ∈ visits, n.Spares i) → ∃ t, after.tasks[i]? = some t ∧
        emitted = (if visits = [] then [] else [⟨r, g, .idle⟩]) ∧
        (audience = .log → t.log.entries = emitted) ∧
        t.accepted = 0 ∧
        t.outcome? = (if visits = [] then none else some .idle) ∧
        (t.hasEnded = true ↔ visits ≠ []) ∧
        ∀ (k : Nat) (n : Monitor), visits[k]? = some n →
          (n.run (.stream i)).feeds = n.feeds ∧
          if k = 0 then n.Runs i g audience ([] : List r.Message) []
          else ∃ queue, n.run (.stream i) = { n with queue }) ∧
    (s.monitor.Reachable → ∀ t, s.monitor.tasks[i]? = some t → t.audience = .log →
      ∀ n ∈ visits, n.Spares i) ∧
    ∀ (g : Generation) (closed : Bool) (first later : List r.Item) (p : Reading r),
      Reading.consume g closed (first ++ later) p =
        match Reading.consume g false first p with
        | (p', none) => Reading.consume g closed later p'
        | (p', some outcome) => (p', some outcome) := by
  intro visits emitted met accepted after
  have hfirst : ∀ {k : Nat} {n : Monitor}, (s.visits i run)[k]? = some n →
      ((s.visits i run).take k = [] ↔ k = 0) := by
    intro k n hn
    obtain ⟨hlt, -⟩ := List.getElem?_eq_some_iff.mp hn
    rw [List.take_eq_nil_iff]
    constructor
    · rintro (hk | hnil)
      · exact hk
      · simp [hnil] at hlt
    · exact Or.inl
  refine ⟨?_, ?_, ?_, Reading.consume_append⟩
  · intro h rate ht hspared
    obtain ⟨t, ht', hl, hpast⟩ := exists_of_lasts (Monitor.lasts_lived i r h rate audience) ht
      (.start i r h rate audience) hspared
    refine ⟨t, ht', hl.emitted_eq, hl.log, hl.accepted, hl.outcome?.1, hl.outcome?.2, ?_⟩
    intro k n hn
    obtain ⟨u, hu, haborted, hlived⟩ := hpast k n hn
    have hruns := hlived.runs hu haborted
    simp only [hfirst hn] at hruns
    exact hruns
  · intro g ht hspared
    obtain ⟨t, ht', hl, hpast⟩ := exists_of_lasts (Monitor.lasts_idled i r g audience) ht
      (.start i r g audience) hspared
    refine ⟨t, ht', hl.emitted, hl.log, hl.accepted, hl.outcome?.1, hl.outcome?.2, ?_⟩
    intro k n hn
    obtain ⟨u, hu, haborted, hidled⟩ := hpast k n hn
    have hruns := hidled.runs hu haborted
    simp only [hfirst hn] at hruns
    exact hruns
  · intro hs t ht haudience n hn u hu
    have hleads : s.monitor.Leads n := leads_of_mem_visits hn
    have hkept : u.audience = t.audience := Monitor.audience_of_leads hleads ht hu
    exact (hs.leads hleads).sparesClients.kept u (List.mem_of_getElem? hu) (hkept.trans haudience)

/-- A client takes the first message, and is cancelled while the second one waits for it. -/
theorem client_keeps_to_its_stream_until_cancelled :
    let opened := (start none).actAll [.connection (.connect "a" "http://[::1]")]
    let s := opened.actAll [.client (.startOver "client" .channels "a")]
    let run : List Action := [
      .broker (.offer "feed" "[::1]" .channels),
      .broker (.send "feed" .channels [({ topic := "boats" } : ChannelEntry)]),
      .run (.stream 2), .broker (.send "feed" .channels []), .client (.cancel "client"),
      .run (.stream 2)]
    ∃ t, (s.actAll run).monitor.tasks[2]? = some t ∧
      t.log.entries = [⟨.channels, ⟨1⟩, .connecting⟩, ⟨.channels, ⟨1⟩, .streaming⟩] ∧
      t.accepted = 1 ∧ t.outcome? = some (.superseded 1) := by
  intro opened s run
  have alive : opened.monitor.alive = true := by decide +kernel
  have hlength : opened.monitor.tasks.length = 2 := by decide +kernel
  have hthere : (opened.handles.get? "a").any (·.generation == ⟨1⟩) = true := by decide +kernel
  obtain ⟨h, hh, hgeneration⟩ := (Option.any_eq_true _ _).mp hthere
  have hrate : opened.monitor.rate = none := by decide +kernel
  have hnew : s.monitor.tasks[2]? = some (.attached .channels h 0 .log) := by
    have hs : s.monitor.tasks = opened.monitor.tasks ++ [.attached .channels h 0 .log] := by
      simp [s, actAll, act, actClient, alive, hh, startClient, Monitor.startClient, Monitor.spawn,
        Monitor.enqueueReady, Monitor.clientTask, hrate]
    rw [hs, List.getElem?_append_right (by omega), hlength]
    rfl
  have hreachable : s.monitor.Reachable :=
    ⟨none, monitor_leads (((start none).leads_actAll _).trans (opened.leads_actAll _))⟩
  -- what the client meets at its two visits
  have hvisits : s.visits 2 run ≠ [] := by
    apply List.ne_nil_of_length_pos
    decide +kernel
  have hends : Encounter.ending 0 (Monitor.encounters .channels 2 (s.visits 2 run)) =
      some (.superseded 1) := by decide +kernel
  have hcount : (Encounter.accepted (Monitor.encounters .channels 2 (s.visits 2 run))).length =
      1 := by decide +kernel
  have haccepts : Encounter.accepted (Monitor.encounters .channels 2 (s.visits 2 run)) ≠ [] :=
    List.ne_nil_of_length_pos (by omega)
  obtain ⟨hattached, -, hspared, -⟩ := client_keeps_to_its_stream s 2 .channels .log run
  obtain ⟨t, ht, hemitted, hlog, haccepted, houtcome, -⟩ :=
    hattached h 0 hnew (hspared hreachable _ hnew rfl)
  rw [if_neg hvisits, if_neg haccepts, eq_of_beq hgeneration] at hemitted
  exact ⟨t, ht, (hlog rfl).trans hemitted, haccepted.trans hcount, houtcome.trans hends⟩

end Session

end BrokerMonitor
