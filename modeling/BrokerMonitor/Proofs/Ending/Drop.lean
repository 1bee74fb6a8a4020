import BrokerMonitor.Proofs.Ending.Clients
/-!
# The drop ends everything

Once the monitor has been dropped and everything has settled, its tasks have ended and have let go
of their feeds, and everybody who looks at the status is told the last of it and then the end. The
listings go on for as long as a client runs: what it takes reaches those who follow them, and when
the last client has ended they too are told the end.
-/

namespace BrokerMonitor

/-- A receiver that had not seen everything before has not seen everything later, and no receiver
has seen what was announced in between. -/
theorem Cell.seenBy_of_version_eq_add {α : Type} {c d : Cell α} {w : Receiver} {count : Nat}
    (hversion : d.version = c.version + count) (hseen : w.seen ≤ c.version) :
    d.seenBy w = (c.seenBy w && count == 0) := by
  rw [Bool.eq_iff_iff]
  simp only [seenBy, hversion, Bool.and_eq_true, beq_iff_eq]
  omega

namespace Monitor

variable {m m' : Monitor}

/-- No generation is opened after the drop. -/
theorem generation_of_dropped (h : m.Leads m') (dropped : m.alive = false) :
    m'.generation = m.generation := by
  induction h with
  | refl => rfl
  | tail hn step ih =>
      refine Eq.trans ?_ ih
      cases step with
      | attach _ _ alive => exact absurd (alive.symm.trans (dropped_of_leads hn dropped)) nofun
      | run j => exact congrArg Prod.fst (Monitor.epoch_run _ j)
      | _ => rfl

end Monitor

namespace Session

variable {s : Session} {r : Resource} {name : String} {f : Follower}

/-! ### What is put into the slots after the drop -/

theorem store_act_of_dropped {a : Action} (ha : a.runsTasks = false)
    (dropped : s.monitor.alive = false) : (s.act a).1.monitor.store = s.monitor.store := by
  cases a with
  | broker a =>
      obtain ⟨_, _, _, _, _, hact⟩ := s.exists_actBroker_eq a
      rw [act, hact]
  | connection a =>
      refine s.actConnection_elim a (fun _ _ => rfl) (fun _ _ _ alive _ _ => ?_) fun _ => rfl
      cases alive.symm.trans dropped
  | subscriber a =>
      obtain ⟨_, _, _, _, _, _, hact⟩ := s.exists_actSubscriber_eq a
      rw [act, hact]
  | client a =>
      obtain ⟨_, _, _, hact⟩ := s.exists_actClient_eq a
      rw [act, hact]
  | run | settle => cases ha

theorem store_act_eq_deliver (dropped : s.monitor.alive = false) (a : Action) (r : Resource) :
    (s.act a).1.monitor.store.get r = Slot.deliver (s.monitor.store.get r)
      (s.monitor.snapshot r).generation ((s.monitor.intakeAll r (s.jobs a)).map (·.2)) := by
  cases hruns : a.runsTasks with
  | true =>
      rw [act_of_runsTasks s hruns]
      exact s.monitor.store_runAll _ r
  | false =>
      rw [store_act_of_dropped hruns dropped, s.jobs_eq_nil hruns]
      rfl

theorem store_actAll_eq_deliver (dropped : s.monitor.alive = false) (run : List Action)
    (r : Resource) :
    (s.actAll run).monitor.store.get r = Slot.deliver (s.monitor.store.get r)
      (s.monitor.snapshot r).generation ((s.intake r run).map (·.2)) := by
  induction run generalizing s with
  | nil => rfl
  | cons a rest ih =>
      have hact := store_act_eq_deliver dropped a r
      have hgeneration : ((s.act a).1.monitor.snapshot r).generation =
          (s.monitor.snapshot r).generation := by
        rw [Monitor.snapshot, hact, Slot.generation_deliver]
        rfl
      have hrest := ih (Monitor.dropped_of_leads (s.monitor_leads_act a) dropped)
      rw [actAll_cons, hrest, hgeneration, hact, intake, List.map_append, Slot.deliver_append]

theorem exists_of_mem_intake {run : List Action} {e : Nat × r.Message} (h : e ∈ s.intake r run) :
    ∃ m j, s.monitor.Leads m ∧ e ∈ m.intake r j := by
  induction run generalizing s with
  | nil => cases h
  | cons a rest ih =>
      rcases List.mem_append.mp h with hfirst | hlater
      · exact Monitor.exists_of_mem_intakeAll hfirst
      · obtain ⟨m, j, hm, he⟩ := ih hlater
        exact ⟨m, j, (s.monitor_leads_act a).trans hm, he⟩

/-- Once the board is gone, whatever is put into a slot is from a client of the last generation that
still runs. -/
theorem client_of_mem_intake (hs : s.monitor.Reachable) (hgone : s.monitor.boardGone = true)
    {run : List Action} {e : Nat × r.Message} (h : e ∈ s.intake r run) :
    ∃ t, s.monitor.tasks[e.1]? = some t ∧ t.audience = .log ∧ t.hasEnded = false ∧
      t.resource = r ∧ t.generation = s.monitor.generation := by
  obtain ⟨m, j, hleads, he⟩ := exists_of_mem_intake h
  obtain ⟨dropped, hboard⟩ := Monitor.boardGone_iff.mp hgone
  obtain ⟨t', ht', hresource, hrunning, hgeneration⟩ := Monitor.exists_of_mem_intake he
  obtain ⟨t, ht, hbecomes⟩ := Monitor.exists_becomes hleads dropped ht'
  have hrunning : t.hasEnded = false := by
    by_contra hended
    have hended' := hbecomes.ended (by simpa using hended)
    exact absurd (hrunning.symm.trans hended') nofun
  refine ⟨t, ht, ?_, hrunning, hbecomes.resource.symm.trans hresource, ?_⟩
  · cases haudience : t.audience with
    | log => rfl
    | board =>
        have hended := hboard t (List.mem_of_getElem? ht) haudience
        exact absurd (hrunning.symm.trans hended) nofun
  · have hsnapshot := (hs.leads hleads).exact.lockstep.snapshot r
    rw [← hbecomes.generation, hgeneration, hsnapshot, Monitor.generation_of_dropped hleads dropped]

/-! ### Followers -/

/-- Nobody has seen more than there is. -/
theorem seen_le_version (rate : Option UInt32) (run : List Action)
    (hf : ((start rate).actAll run).followers.get? name = some f) :
    f.seen ≤ (((start rate).actAll run).monitor.store.get f.resource).version := by
  obtain ⟨past, hpast, -⟩ := exists_sightings_subset (.start rate f.resource)
    (Monitor.Lockstep.initial rate) run
  have hlt := (hpast.keeps name f hf).seen_lt rfl
  rw [hpast.slot.length] at hlt
  exact Nat.le_of_lt_succ hlt

theorem get?_followers_actAll (dropped : s.monitor.alive = false) {run : List Action}
    (hrun : ∀ a ∈ run, a.concerns name = false) :
    (s.actAll run).followers.get? name = s.followers.get? name := by
  induction run generalizing s with
  | nil => rfl
  | cons a rest ih =>
      obtain ⟨ha, hrest⟩ := List.forall_mem_cons.mp hrun
      exact (ih (Monitor.dropped_of_leads (s.monitor_leads_act a) dropped) hrest).trans
        (get?_followers_act dropped ha)

/-- Something is due to a follower if it was due before, and if a message has come. -/
theorem isDue_actAll (dropped : s.monitor.alive = false)
    (hseen : f.seen ≤ (s.monitor.store.get f.resource).version) (run : List Action) :
    f.isDue (s.actAll run).monitor =
      (f.isDue s.monitor || !(s.intake f.resource run).isEmpty) := by
  have hversion : ((s.actAll run).monitor.store.get f.resource).version =
      (s.monitor.store.get f.resource).version + (s.intake f.resource run).length := by
    rw [store_actAll_eq_deliver dropped run f.resource, Monitor.snapshot, Slot.version_deliver rfl,
      List.length_map]
  have hempty : ((s.intake f.resource run).length == 0) = (s.intake f.resource run).isEmpty := by
    cases s.intake f.resource run <;> rfl
  cases f with
  | subscription r f =>
      have hlater := Cell.seenBy_of_version_eq_add hversion hseen
      simp only [Follower.isDue, Follower.resource] at hlater hempty ⊢
      rw [hlater, hempty, Bool.not_and]
  | stream r f =>
      have hlater := Cell.seenBy_of_version_eq_add hversion hseen
      simp only [Follower.isDue, Follower.resource] at hlater hempty ⊢
      rw [hlater, hempty, ← Bool.and_assoc, Bool.not_and]

/-- Whoever follows a slot is told of what has been put there since, and else, if nothing was due,
that nothing has come or that it is over. -/
theorem answer_inquiry_actAll (dropped : s.monitor.alive = false)
    (hf : s.followers.get? name = some f)
    (hseen : f.seen ≤ (s.monitor.store.get f.resource).version) {between : List Action}
    (hbetween : ∀ a ∈ between, a.concerns name = false) :
    let after := s.actAll between
    (after.act (.subscriber (f.inquiry name))).2 = .next f.resource
      (if f.isDue s.monitor || !(s.intake f.resource between).isEmpty then
        .snapshot (after.monitor.snapshot f.resource)
      else if after.monitor.storeGone then .ended else .pending) := by
  intro after
  have hafter : after.followers.get? name = some f :=
    (get?_followers_actAll dropped hbetween).trans hf
  obtain ⟨f', hact, -, -⟩ := exists_act_inquiry hafter
  rw [hact, Follower.reply, isDue_actAll dropped hseen between]

/-! ### The drop -/

/-- After the drop the monitor's own tasks have ended and have left their feeds, for ever, and what
is still open is read by a client. -/
theorem tasks_windUp (rate : Option UInt32) (before later : List Action) :
    let m := (((start rate).actAll before).windUp.actAll later).monitor
    (∀ t ∈ m.tasks, t.audience = .board → t.hasEnded = true) ∧
    (∀ id, ∀ i ∈ (start rate).openers id (before ++ .connection .drop :: .settle :: later), ∀ t,
      m.tasks[i]? = some t → t.audience = .board → m.IsLeft id) ∧
    ∀ id, m.IsOpen id → ∃ (i : Nat) (t : StreamTask), m.tasks[i]? = some t ∧ t.audience = .log ∧
      t.hasEnded = false ∧ t.resource = id.resource ∧ t.feed? = some id.place := by
  intro m
  let run := before ++ .connection .drop :: .settle :: later
  have hrun : m = ((start rate).actAll run).monitor := by
    rw [actAll_append]
    rfl
  have hs : ((start rate).actAll before).monitor.Reachable :=
    reachable_of_leads ((start rate).leads_actAll before)
  have hleads := ((start rate).actAll before).windUp.leads_actAll later
  have hgone : m.boardGone = true :=
    Monitor.boardGone_of_leads (monitor_leads hleads) (boardGone_windUp hs)
  have hended := (Monitor.boardGone_iff.mp hgone).2
  have hm : m.Reachable := (hs.leads (monitor_leads (leads_windUp _))).leads (monitor_leads hleads)
  refine ⟨hended, ?_, fun id hopen => hm.manned.exists_client hgone hopen⟩
  intro id i hi t ht haudience
  have hheld : m.HeldOrLeft id i := by
    rw [hrun]
    exact heldOrLeft_of_mem_openers (.initial rate) hi
  exact hheld.isLeft ht (hended t (List.mem_of_getElem? ht) haudience)

/-- An observer that was not aborted has heard everything that was computed before the drop, and
then it has finished. -/
theorem observers_windUp (hs : s.monitor.Reachable) (alive : s.monitor.alive = true) (name : String)
    (rest : List Action) :
    let observed := (s.act (.subscriber (.observe name))).1
    let ended := (observed.actAll rest).windUp
    let k := s.monitor.observers.length
    ∃ o, ended.monitor.observers[k]? = some o ∧ (o.aborted = false → ∀ later, ∃ o',
      (ended.actAll later).monitor.observers[k]? = some o' ∧ o'.finished = true ∧
      o'.heard.entries =
        s.monitor.status :: s.monitor.status.recomputed (observed.boardEventsAlong rest)) := by
  intro observed ended k
  obtain ⟨p, hp, hcomplete⟩ := exists_observer_actAll hs alive name rest
  have hrest : (observed.actAll rest).monitor.Reachable :=
    (hs.leads (s.monitor_leads_act _)).leads (monitor_leads (observed.leads_actAll rest))
  obtain ⟨o, ho, hfinished, hheard⟩ := heard_windUp hrest hp hcomplete
  refine ⟨o, ho, fun haborted later => ?_⟩
  obtain ⟨o', ho', hfinished', hsame⟩ :=
    Monitor.stays_finished (monitor_leads (ended.leads_actAll later)) ho hfinished
  exact ⟨o', ho', hfinished', hsame.trans (hheard haborted)⟩

/-- A watch tells the last status, unless it was seen before the drop, and is then closed. -/
theorem watches_windUp (hs : s.monitor.Reachable) {w : Receiver}
    (hw : s.watches.get? name = some w) (later : List Action) :
    Concludes .closed
      (if s.monitor.board.status.seenBy w then none else some (.fresh s.monitor.status))
      (polls name (s.windUp.trace later)) := by
  have hreach : s.windUp.monitor.Reachable := hs.leads (monitor_leads s.leads_windUp)
  have hkept : s.windUp.watches.get? name = s.watches.get? name :=
    get?_watches_actAll (by simp) (by simp)
  have hstatus := status_windUp hs
  have hcurrent : s.windUp.monitor.status = s.monitor.status := congrArg Cell.value hstatus
  have hpolls := concludes_polls hreach (boardGone_windUp hs) (hkept.trans hw) later
  rwa [hstatus, hcurrent] at hpolls

/-- When no client runs any more, whoever follows the listings is given the last one, unless that
was given before, and is then told that it is over. -/
theorem followers_windUp (hs : s.monitor.Reachable)
    (hclients : ∀ t ∈ s.windUp.monitor.tasks, t.audience = .log → t.hasEnded = true)
    {between later : List Action} (hf : (s.windUp.actAll between).followers.get? name = some f)
    (hkept : .subscriber (.intoStream name) ∉ later) :
    Concludes .ended
      (if f.isDue s.windUp.monitor then some (.snapshot (s.windUp.monitor.snapshot f.resource))
        else none)
      (replies name f.resource ((s.windUp.actAll between).trace later)) := by
  have hgone := (Monitor.storeGone_iff_of_boardGone (boardGone_windUp hs)).mpr hclients
  obtain ⟨hgone', hstore⟩ :=
    Monitor.storeGone_of_leads (monitor_leads (s.windUp.leads_actAll between)) hgone
  have hsnapshot : (s.windUp.actAll between).monitor.snapshot f.resource =
      s.windUp.monitor.snapshot f.resource :=
    congrArg (fun store : Store => (store.get f.resource).value) hstore
  have hreplies := concludes_replies hgone' hf rfl hkept
  rwa [f.isDue_congr (congrArg (EachResource.get · f.resource) hstore), hsnapshot] at hreplies

/-- Dropping the monitor ends everything and loses nothing. Take any run of a session, of any
actions in any order, and drop the monitor at its end, if that has not been done before, and let
everything settle.

The monitor's own tasks have then ended and have left all feeds that they have ever opened, and it
stays so whatever comes later; a feed is open only if a client reads it. Every observer that was not
aborted has heard the status that it was registered with and each status computed before the drop,
and has finished, and hears nothing later. Every watch tells the status at the drop, if that was not
seen before, and is from then on closed.

If no client runs any more, every subscription is given the final listing, if that was not given
before, and is from then on told that it is over, and so is every stream that a subscription was or
is turned into.

Otherwise nobody is told so until the last client has ended. Whenever a follower of a slot is asked,
it is given the current listing if something was due to it before, or if a message has come since
(`news`); else it is told that nothing has come. Each such message is from a client of the last
generation that was running, the listing is that of the last message, and such a client still takes
all messages within its reach when it is run. -/
theorem dropping_ends_everything (rate : Option UInt32) (before : List Action) :
    let s := (start rate).actAll before
    let ended := s.windUp
    (∀ later, let m := (ended.actAll later).monitor
      (∀ t ∈ m.tasks, t.audience = .board → t.hasEnded = true) ∧
      (∀ id, ∀ i ∈ (start rate).openers id (before ++ .connection .drop :: .settle :: later), ∀ t,
        m.tasks[i]? = some t → t.audience = .board → m.IsLeft id) ∧
      ∀ id, m.IsOpen id → ∃ (i : Nat) (t : StreamTask), m.tasks[i]? = some t ∧
        t.audience = .log ∧ t.hasEnded = false ∧ t.resource = id.resource ∧
        t.feed? = some id.place) ∧
    (∀ first name rest, before = first ++ .subscriber (.observe name) :: rest →
      let registered := (start rate).actAll first
      let observed := (registered.act (.subscriber (.observe name))).1
      let k := registered.monitor.observers.length
      registered.monitor.alive = true →
      ∃ o, ended.monitor.observers[k]? = some o ∧ (o.aborted = false → ∀ later, ∃ o',
        (ended.actAll later).monitor.observers[k]? = some o' ∧ o'.finished = true ∧
        o'.heard.entries = registered.monitor.status ::
          registered.monitor.status.recomputed (observed.boardEventsAlong rest))) ∧
    (∀ name w, s.watches.get? name = some w → ∀ later,
      Concludes .closed
        (if s.monitor.board.status.seenBy w then none else some (.fresh s.monitor.status))
        (polls name (ended.trace later))) ∧
    ((∀ t ∈ ended.monitor.tasks, t.audience = .log → t.hasEnded = true) →
      ∀ between name f, (ended.actAll between).followers.get? name = some f →
      ∀ later, .subscriber (.intoStream name) ∉ later →
      Concludes .ended
        (if f.isDue ended.monitor then some (.snapshot (ended.monitor.snapshot f.resource))
          else none)
        (replies name f.resource ((ended.actAll between).trace later))) ∧
    ∀ first, let n := ended.actAll first
      (∀ between name f, n.followers.get? name = some f →
        (∀ a ∈ between, a.concerns name = false) →
        let after := n.actAll between
        let news := n.intake f.resource between
        (after.act (.subscriber (f.inquiry name))).2 = .next f.resource
          (if f.isDue n.monitor || !news.isEmpty then .snapshot (after.monitor.snapshot f.resource)
            else if after.monitor.storeGone then .ended else .pending) ∧
        (after.monitor.storeGone = true ↔
          ∀ t ∈ after.monitor.tasks, t.audience = .log → t.hasEnded = true) ∧
        (∀ e, news.getLast? = some e → after.monitor.snapshot f.resource =
          ⟨s.monitor.generation, f.resource.listing e.2,
            (n.monitor.snapshot f.resource).sequence + news.length⟩) ∧
        ∀ e ∈ news, ∃ t, n.monitor.tasks[e.1]? = some t ∧ t.audience = .log ∧
          t.hasEnded = false ∧ t.resource = f.resource ∧ t.generation = s.monitor.generation) ∧
      ∀ i t, n.monitor.tasks[i]? = some t → t.audience = .log →
        t.generation = s.monitor.generation → t.hasEnded = false → t.cancelled = false →
        ∀ p feed, n.monitor.reach t = some p →
        (n.monitor.feeds.get t.resource)[p]? = some feed →
        n.monitor.intake t.resource (.stream i) =
          (Reading.untilFailure feed.pending).map (i, ·) := by
  intro s ended
  have hs : s.monitor.Reachable := reachable_of_leads ((start rate).leads_actAll before)
  refine ⟨tasks_windUp rate before, ?_, fun name w hw => watches_windUp hs hw,
    fun hclients between name f hf later => followers_windUp hs hclients hf, ?_⟩
  · rintro first name rest rfl registered observed k alive
    have hregistered : registered.monitor.Reachable :=
      reachable_of_leads ((start rate).leads_actAll first)
    have hsame : ended = (observed.actAll rest).windUp :=
      congrArg windUp (actAll_append (start rate) first (.subscriber (.observe name) :: rest))
    rw [hsame]
    exact observers_windUp hregistered alive name rest
  · intro first n
    have hleads : s.monitor.Leads n.monitor :=
      (monitor_leads s.leads_windUp).trans (monitor_leads (ended.leads_actAll first))
    have hn : n.monitor.Reachable := hs.leads hleads
    have hgone : n.monitor.boardGone = true :=
      Monitor.boardGone_of_leads (monitor_leads (ended.leads_actAll first)) (boardGone_windUp hs)
    have dropped : n.monitor.alive = false := (Monitor.boardGone_iff.mp hgone).1
    have hgeneration : n.monitor.generation = s.monitor.generation := by
      obtain ⟨hdropped, -, hsame⟩ := s.dropped_act_drop
      have hlater : (s.act (.connection .drop)).1.Leads n :=
        leads_actAll _ (.settle :: first)
      exact (Monitor.generation_of_dropped (monitor_leads hlater) hdropped).trans hsame
    refine ⟨fun between name f hf hbetween => ?_, ?_⟩
    · have hseen : f.seen ≤ (n.monitor.store.get f.resource).version := by
        have hrun : n = (start rate).actAll (before ++ .connection .drop :: .settle :: first) := by
          rw [actAll_append]
          rfl
        rw [hrun] at hf ⊢
        exact seen_le_version rate _ hf
      have hafter := Monitor.boardGone_of_leads (monitor_leads (n.leads_actAll between)) hgone
      refine ⟨answer_inquiry_actAll dropped hf hseen hbetween,
        Monitor.storeGone_iff_of_boardGone hafter, fun e he => ?_, fun e he => ?_⟩
      · have hlast : ((n.intake f.resource between).map (·.2)).getLast? = some e.2 := by
          rw [List.getLast?_map, he, Option.map_some]
        have hsnapshot := (hn.exact.lockstep.snapshot f.resource).trans hgeneration
        rw [Monitor.snapshot, store_actAll_eq_deliver dropped, hsnapshot,
          Slot.value_deliver_of_getLast? hsnapshot hlast, List.length_map]
        rfl
      · rw [← hgeneration]
        exact client_of_mem_intake hn hgone he
    · intro i t ht haudience hlast hended hcancelled p feed hreach hfeed
      exact Monitor.intake_client hn ht haudience (hlast.trans hgeneration.symm) hended hcancelled
        hreach hfeed

/-- A client outlives the monitor and still takes a message, which a subscription is given. The
watch has not looked since before the connect. The monitor's own task loses the message that was
waiting for it. -/
theorem dropping_ends_everything_beside_a_client :
    let first : List Action := [.subscriber (.watch "watch")]
    let rest : List Action := [
      .subscriber (.subscribe "list" .channels), .connection (.connect "a" "http://[::1]"),
      .client (.startOver "client" .channels "a"), .broker (.offer "own" "[::1]" .channels),
      .run (.stream 0), .broker (.offer "beside" "[::1]" .channels), .settle,
      .subscriber (.changed "list"), .broker (.send "own" .channels [])]
    let before := first ++ .subscriber (.observe "log") :: rest
    let s := (start none).actAll before
    let ended := s.windUp
    let later : List Action := [.broker (.send "beside" .channels []), .settle]
    let after := ended.actAll later
    ended.monitor.IsLeft ⟨.channels, 0⟩ ∧ ended.monitor.IsOpen ⟨.channels, 1⟩ ∧
    (∃ o, ended.monitor.observers[0]? = some o ∧ o.finished = true ∧ o.heard.entries.length = 4) ∧
    polls "watch" (ended.trace [.subscriber (.watched "watch"), .subscriber (.watched "watch")]) =
      [.fresh s.monitor.status, .closed] ∧
    ∃ x, (after.act (.subscriber (.changed "list"))).2 = .next .channels (.snapshot x) ∧
      x.generation = ⟨1⟩ ∧ x.sequence = 1 := by
  intro first rest before s ended later after
  -- what the run itself shows
  have hopen : ended.monitor.reader? .channels 1 = some .held := by decide +kernel
  have hown : (ended.monitor.tasks[0]?).any (·.audience == .board) = true := by decide +kernel
  have hopeners : 0 ∈ (start none).openers ⟨.channels, 0⟩
      (before ++ [.connection .drop, .settle]) := by decide +kernel
  have hregistered : ((start none).actAll first).monitor.alive = true ∧
      ((start none).actAll first).monitor.observers.length = 0 := by decide +kernel
  have hentries : (((start none).actAll first).monitor.status.recomputed
      ((((start none).actAll first).act (.subscriber (.observe "log"))).1.boardEventsAlong
        rest)).length = 3 := by decide +kernel
  have hkept : (ended.monitor.observers[0]?).all (!·.aborted) = true := by decide +kernel
  have hwatch : s.watches.get? "watch" = some ⟨0⟩ := by decide +kernel
  have hunseen : s.monitor.board.status.seenBy ⟨0⟩ = false := by decide +kernel
  have htwo : (polls "watch" (ended.trace
      [.subscriber (.watched "watch"), .subscriber (.watched "watch")])).length = 2 := by
    decide +kernel
  have hthere : (ended.followers.get? "list").any
      (· matches .subscription .channels _) = true := by decide +kernel
  have hconcerns : ∀ a ∈ later, a.concerns "list" = false := by decide
  have hlength : (ended.intake .channels later).length = 1 := by decide +kernel
  have hsequence : (ended.monitor.snapshot .channels).sequence = 0 := by decide +kernel
  have hgeneration : s.monitor.generation = ⟨1⟩ := by decide +kernel
  obtain ⟨htasks, hobservers, hwatches, -, hclients⟩ := dropping_ends_everything none before
  have hbefore : before = first ++ .subscriber (.observe "log") :: rest := rfl
  clear_value before first rest later
  refine ⟨?_, hopen, ?_, ?_, ?_⟩
  · obtain ⟨t, ht, haudience⟩ := (Option.any_eq_true _ _).mp hown
    exact (htasks []).2.1 ⟨.channels, 0⟩ 0 hopeners t ht (eq_of_beq haudience)
  · obtain ⟨o, ho, hheard⟩ := hobservers first "log" rest hbefore hregistered.1
    rw [hregistered.2] at ho hheard
    have haborted : o.aborted = false := by
      have ho : ended.monitor.observers[0]? = some o := ho
      simpa [ho] using hkept
    obtain ⟨o', ho', hfinished, hall⟩ := hheard haborted []
    refine ⟨o', ho', hfinished, ?_⟩
    rw [hall, List.length_cons, hentries]
  · have hpolls := hwatches "watch" ⟨0⟩ hwatch
      [.subscriber (.watched "watch"), .subscriber (.watched "watch")]
    obtain ⟨a, b, hboth⟩ := List.length_eq_two.mp htwo
    rw [hboth, hunseen] at hpolls
    obtain ⟨rfl, rfl, -⟩ := hpolls
    exact hboth
  · obtain ⟨f, hf, hkind⟩ := (Option.any_eq_true _ _).mp hthere
    obtain ⟨g, rfl⟩ : ∃ g, f = .subscription .channels g := by
      cases f with
      | stream => cases hkind
      | subscription r g =>
          cases r with
          | channels => exact ⟨g, rfl⟩
          | adapters => cases hkind
    obtain ⟨hanswer, -, hlast, -⟩ := (hclients []).1 later "list" _ hf hconcerns
    obtain ⟨e, he⟩ := List.length_eq_one_iff.mp hlength
    have hsnapshot : (after.monitor.snapshot .channels) =
        ⟨s.monitor.generation, Resource.channels.listing e.2,
          (ended.monitor.snapshot .channels).sequence + (ended.intake .channels later).length⟩ :=
      hlast e (congrArg List.getLast? he)
    have hnews : (ended.intake .channels later).isEmpty = false := by rw [he]; rfl
    have hgiven : (after.act (.subscriber (.changed "list"))).2 =
        .next .channels (if (Follower.subscription .channels g).isDue ended.monitor ||
          !(ended.intake .channels later).isEmpty then .snapshot (after.monitor.snapshot .channels)
        else if after.monitor.storeGone then .ended else .pending) := hanswer
    rw [hnews, Bool.not_false, Bool.or_true, if_pos rfl] at hgiven
    refine ⟨_, hgiven, ?_, ?_⟩
    · rw [hsnapshot, hgeneration]
    · rw [hsnapshot, hsequence, hlength]

end Session

end BrokerMonitor
