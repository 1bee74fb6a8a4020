import BrokerMonitor.Proofs.Ending.Dismissal
import BrokerMonitor.Proofs.Listing.Succession
/-!
# The last news

Whoever asks for news of what is over is told the last news first, unless they had it already, and
from then on that it is over (`Concludes`). So it is with the watches once the board is gone, and
with those who follow the listings once nobody can write to the store any more.
-/

namespace BrokerMonitor

/-- What somebody is told who keeps asking: the last news, if there is any left for them, and from
then on that it is over. -/
def Concludes {α : Type} (ending : α) : Option α → List α → Prop
  | _, [] => True
  | none, a :: rest => a = ending ∧ Concludes ending none rest
  | some news, a :: rest => a = news ∧ Concludes ending none rest

/-- A subscription that is asked moves on to what its slot holds, if that is news. -/
theorem Subscription.changed_eq {α : Type} (f : Subscription α) (slot : Slot α) (gone : Bool) :
    f.changed slot gone =
      if slot.seenBy f.receiver then (f, if gone then .ended else .pending)
      else (⟨slot.value, slot.subscribe⟩, .snapshot slot.value) := by
  unfold changed Cell.poll
  cases slot.seenBy f.receiver <;> cases gone <;> rfl

/-- So does a stream, whose first item is what the slot holds. -/
theorem ListingStream.next_eq {α : Type} (f : ListingStream) (slot : Slot α) (gone : Bool) :
    f.next slot gone =
      if f.started && slot.seenBy f.receiver then (f, if gone then .ended else .pending)
      else (⟨slot.subscribe, true⟩, .snapshot slot.value) := by
  unfold next Cell.poll
  cases f.started <;> cases slot.seenBy f.receiver <;> cases gone <;> rfl

/-- The next listing of `r` that an answer gives. -/
def Answer.next? (r : Resource) : Answer → Option (Next r.Record)
  | .next r' n => if h : r' = r then some (h ▸ n) else none
  | _ => none

@[simp] theorem Answer.next?_self (r : Resource) (n : Next r.Record) :
    (Answer.next r n).next? r = some n := dif_pos rfl

/-- The action asks the follower of a name, or turns it into a stream. -/
def Action.concerns (name : String) : Action → Bool
  | .subscriber (.changed n) | .subscriber (.next n) | .subscriber (.intoStream n) => n == name
  | _ => false

theorem Action.eq_of_concerns {name : String} {a : Action} (h : a.concerns name = true) :
    a = .subscriber (.changed name) ∨ a = .subscriber (.next name) ∨
      a = .subscriber (.intoStream name) := by
  unfold concerns at h
  split at h
  · exact .inl (eq_of_beq h ▸ rfl)
  · exact .inr (.inl (eq_of_beq h ▸ rfl))
  · exact .inr (.inr (eq_of_beq h ▸ rfl))
  · cases h

namespace Follower

/-- There is something that the follower has not been given yet. -/
def isDue (m : Monitor) : Follower → Bool
  | .subscription r f => !(m.store.get r).seenBy f.receiver
  | .stream r f => !(f.started && (m.store.get r).seenBy f.receiver)

/-- How the follower of a name is asked for news. -/
def inquiry (name : String) : Follower → SubscriberAction
  | .subscription .. => .changed name
  | .stream .. => .next name

/-- What the follower is told when it is asked. -/
def reply (m : Monitor) (f : Follower) : Next f.resource.Record :=
  if f.isDue m then .snapshot (m.snapshot f.resource)
  else if m.storeGone then .ended else .pending

theorem isDue_congr {m m' : Monitor} (f : Follower)
    (h : m'.store.get f.resource = m.store.get f.resource) : f.isDue m' = f.isDue m := by
  cases f with
  | subscription r f => exact congrArg (fun slot : Slot r.Record => !slot.seenBy f.receiver) h
  | stream r f =>
      exact congrArg (fun slot : Slot r.Record => !(f.started && slot.seenBy f.receiver)) h

end Follower

namespace Monitor

variable {m m' : Monitor}

theorem storeGone_iff : m.storeGone = true ↔
    m.alive = false ∧ ∀ t ∈ m.tasks, t.hasEnded = true := by
  simp [storeGone]

/-- The store is gone once the board is and no client runs any more. -/
theorem storeGone_iff_of_boardGone (hgone : m.boardGone = true) : m.storeGone = true ↔
    ∀ t ∈ m.tasks, t.audience = .log → t.hasEnded = true := by
  obtain ⟨dropped, hboard⟩ := boardGone_iff.mp hgone
  rw [storeGone_iff]
  constructor
  · exact fun h t ht _ => h.2 t ht
  · intro hclients
    refine ⟨dropped, fun t ht => ?_⟩
    cases haudience : t.audience with
    | board => exact hboard t ht haudience
    | log => exact hclients t ht haudience

theorem storeGone_of_map_core (h : m.storeGone = true) (dropped : m'.alive = false)
    (htasks : m'.tasks.map StreamTask.core = m.tasks.map StreamTask.core) :
    m'.storeGone = true := by
  refine storeGone_iff.mpr ⟨dropped, fun u hu => ?_⟩
  obtain ⟨i, hi⟩ := List.mem_iff_getElem?.mp hu
  obtain ⟨t, ht, hcore⟩ := StreamTask.exists_getElem?_of_map htasks hi
  have hended : t.core.hasEnded = true := (storeGone_iff.mp h).2 t (List.mem_of_getElem? ht)
  rw [hcore] at hended
  exact hended

/-- Nobody does anything who has ended. -/
theorem runStream_of_storeGone (h : m.storeGone = true) (i : Nat) : m.runStream i = m := by
  unfold runStream
  split
  · rfl
  · next t ht => rw [if_pos ((storeGone_iff.mp h).2 t (List.mem_of_getElem? ht))]

/-- A store that is gone does not come back, and it stays as it is. -/
theorem Step.storeGone (step : m.Step m') (h : m.storeGone = true) :
    m'.storeGone = true ∧ m'.store = m.store := by
  have dropped := (storeGone_iff.mp h).1
  cases step with
  | attach _ _ alive | startOver _ _ alive | startDetached _ _ alive =>
      exact absurd (alive.symm.trans dropped) nofun
  | drop => exact ⟨storeGone_of_map_core h rfl m.map_core_abandonTasks, rfl⟩
  | readLog ht => exact ⟨storeGone_of_map_core h dropped (StreamTask.map_set ht rfl), rfl⟩
  | cancel i =>
      refine ⟨storeGone_of_map_core h dropped ?_, rfl⟩
      exact StreamTask.map_modify m.tasks i fun t => (rfl : t.cancel.core = t.core)
  | run j =>
      cases j with
      | observer k =>
          obtain ⟨board, observers, queue, hrun, -⟩ := m.exists_run_observer_eq k
          rw [hrun]
          exact ⟨h, rfl⟩
      | stream i =>
          obtain ⟨queue, hrun⟩ := m.exists_run_stream_eq i
          rw [hrun, runStream_of_storeGone h]
          exact ⟨h, rfl⟩
  | _ => exact ⟨h, rfl⟩

theorem storeGone_of_leads (hm : m.Leads m') (h : m.storeGone = true) :
    m'.storeGone = true ∧ m'.store = m.store := by
  induction hm with
  | refl => exact ⟨h, rfl⟩
  | tail _ step ih =>
      obtain ⟨hgone, hstore⟩ := step.storeGone ih.1
      exact ⟨hgone, hstore.trans ih.2⟩

end Monitor

namespace Session

variable {s : Session} {name : String} {a : Action}

/-! ### Watches -/

/-- What a poll of the watch of a name is answered. -/
def polled? (name : String) : Action × Answer → Option (Change BrokerStatus)
  | (.subscriber (.watched n), .change c) => if n = name then some c else none
  | _ => none

/-- What the watch of a name is told. -/
def polls (name : String) (heard : List (Action × Answer)) : List (Change BrokerStatus) :=
  heard.filterMap (polled? name)

theorem polled?_eq_none {answer : Answer} (ha : a ≠ .subscriber (.watched name)) :
    polled? name (a, answer) = none := by
  unfold polled?
  split
  · next n c heq =>
      obtain ⟨rfl, -⟩ := Prod.mk.inj heq
      exact if_neg fun hn : n = name => ha (hn ▸ rfl)
  · rfl

/-- After the drop no watch is made any more. -/
theorem get?_watches_of_dropped (dropped : s.monitor.alive = false)
    (ha : a ≠ .subscriber (.watched name)) :
    (s.act a).1.watches.get? name = s.watches.get? name := by
  by_cases hmade : a = .subscriber (.watch name)
  · subst hmade
    simp [act, actSubscriber, dropped]
  · exact get?_watches_act hmade ha

/-- Once the board is gone a watch is told the last status, unless it has seen it, and then that it
is over. -/
theorem concludes_polls (hm : s.monitor.Reachable) (hgone : s.monitor.boardGone = true)
    {w : Receiver} (hw : s.watches.get? name = some w) (run : List Action) :
    Concludes .closed
      (if s.monitor.board.status.seenBy w then none else some (.fresh s.monitor.status))
      (polls name (s.trace run)) := by
  induction run generalizing s w with
  | nil => split <;> trivial
  | cons a rest ih =>
      have dropped := (Monitor.boardGone_iff.mp hgone).1
      have hleads := s.monitor_leads_act a
      have hstatus := Monitor.status_of_dropped hm hleads dropped
      have hnext {w' : Receiver} := @ih _ (hm.leads hleads)
        (Monitor.boardGone_of_leads hleads hgone) w'
      rw [trace_cons]
      by_cases ha : a = .subscriber (.watched name)
      · subst ha
        have hact : s.act (.subscriber (.watched name)) =
            ({ s with watches := s.watches.put name s.monitor.board.status.subscribe },
              .change (s.monitor.board.status.poll true w).1) := by
          simp only [act, actSubscriber, withNamed, hw, hgone, Cell.poll_snd]
        rw [hact] at hnext ⊢
        have hrest := hnext (s.watches.get?_put_self name _)
        rw [if_pos (Cell.seenBy_subscribe _)] at hrest
        have hpolls : ∀ (c : Change BrokerStatus) (l : List (Action × Answer)),
            polls name ((.subscriber (.watched name), .change c) :: l) = c :: polls name l := by
          intro c l
          simp [polls, polled?]
        rw [hpolls]
        unfold Cell.poll
        cases hseen : s.monitor.board.status.seenBy w with
        | true => exact ⟨rfl, hrest⟩
        | false => exact ⟨rfl, hrest⟩
      · have hpolls : polls name ((a, (s.act a).2) :: (s.act a).1.trace rest) =
            polls name ((s.act a).1.trace rest) :=
          List.filterMap_cons_none (polled?_eq_none ha)
        have hrest := hnext ((get?_watches_of_dropped dropped ha).trans hw)
        have hcurrent : (s.act a).1.monitor.status = s.monitor.status :=
          congrArg Cell.value hstatus
        rwa [hstatus, hcurrent, ← hpolls] at hrest

/-! ### Followers -/

/-- What the follower of a name is answered when it is asked for news of `r`. -/
def asked? (name : String) (r : Resource) : Action × Answer → Option (Next r.Record)
  | (.subscriber (.changed n), answer) | (.subscriber (.next n), answer) =>
    if n = name then answer.next? r else none
  | _ => none

/-- What the follower of a name is told of `r`. -/
def replies (name : String) (r : Resource) (heard : List (Action × Answer)) :
    List (Next r.Record) :=
  heard.filterMap (asked? name r)

/-- Whoever is asked is told what there is, and then nothing is due to them. -/
theorem exists_act_inquiry {f : Follower} (hf : s.followers.get? name = some f) :
    ∃ f', s.act (.subscriber (f.inquiry name)) =
        ({ s with followers := s.followers.put name f' }, .next f.resource (f.reply s.monitor)) ∧
      f'.resource = f.resource ∧ f'.isDue s.monitor = false := by
  cases f with
  | subscription r f =>
      let slot := s.monitor.store.get r
      have hact : s.act (.subscriber (.changed name)) = s.changed name r f := by
        simp only [act, actSubscriber, withNamed, hf]
      have hreply : (Follower.subscription r f).reply s.monitor =
          (if !slot.seenBy f.receiver then .snapshot slot.value
            else if s.monitor.storeGone then .ended else .pending : Next r.Record) := rfl
      rw [Follower.inquiry, hact, hreply, changed, Subscription.changed_eq]
      cases hseen : slot.seenBy f.receiver with
      | true => exact ⟨.subscription r f, rfl, rfl, by simp [Follower.isDue, hseen, slot]⟩
      | false =>
          exact ⟨.subscription r ⟨slot.value, slot.subscribe⟩, rfl, rfl, by
            simp [Follower.isDue, slot]⟩
  | stream r f =>
      let slot := s.monitor.store.get r
      have hact : s.act (.subscriber (.next name)) = s.next name r f := by
        simp only [act, actSubscriber, withNamed, hf]
      have hreply : (Follower.stream r f).reply s.monitor =
          (if !(f.started && slot.seenBy f.receiver) then .snapshot slot.value
            else if s.monitor.storeGone then .ended else .pending : Next r.Record) := rfl
      rw [Follower.inquiry, hact, hreply, next, ListingStream.next_eq]
      cases hseen : f.started && slot.seenBy f.receiver with
      | true =>
          refine ⟨.stream r f, rfl, rfl, ?_⟩
          rw [Follower.isDue, hseen]
          rfl
      | false => exact ⟨.stream r ⟨slot.subscribe, true⟩, rfl, rfl, by simp [Follower.isDue, slot]⟩

/-- A stream is not asked for a change, nor a subscription for its next item. -/
theorem act_of_unfit {f : Follower} (hf : s.followers.get? name = some f)
    (ha : a = .subscriber (.changed name) ∨ a = .subscriber (.next name))
    (hunfit : a ≠ .subscriber (f.inquiry name)) : s.act a = (s, .unable) := by
  cases f with
  | subscription r f =>
      rcases ha with rfl | rfl
      · exact absurd rfl hunfit
      · simp only [act, actSubscriber, withNamed, hf]
  | stream r f =>
      rcases ha with rfl | rfl
      · simp only [act, actSubscriber, withNamed, hf]
      · exact absurd rfl hunfit

/-- What neither asks the follower of a name nor makes one of that name does nothing to it. -/
theorem get?_followers_act_of_other
    (hmade : s.monitor.alive = true → ∀ r, a ≠ .subscriber (.subscribe name r))
    (ha : a.concerns name = false) :
    (s.act a).1.followers.get? name = s.followers.get? name := by
  by_cases hsubscriber : ∃ b, a = .subscriber b
  · obtain ⟨b, rfl⟩ := hsubscriber
    have hput : ∀ {n : String} (f : Follower), n ≠ name →
        (s.followers.put n f).get? name = s.followers.get? name :=
      fun f hn => (Roster.get?_put ..).trans (if_neg (Ne.symm hn))
    cases b with
    | observe n | watch n =>
        simp only [act, actSubscriber]
        split <;> rfl
    | subscribe n r =>
        cases alive : s.monitor.alive with
        | false => simp [act, actSubscriber, alive]
        | true =>
            have hn : n ≠ name := fun h => hmade alive r (h ▸ rfl)
            simp only [act, actSubscriber, alive, if_true]
            exact hput _ hn
    | seen n =>
        simp only [act, actSubscriber]
        refine s.withNamed_elim s.observers n _ rfl fun i _ => ?_
        unfold seen
        split <;> rfl
    | unobserve n =>
        simp only [act, actSubscriber]
        exact s.withNamed_elim s.observers n _ rfl fun _ _ => rfl
    | watched n =>
        simp only [act, actSubscriber]
        exact s.withNamed_elim s.watches n _ rfl fun _ _ => rfl
    | current n | latest n =>
        simp only [act, actSubscriber]
        exact s.withNamed_elim s.followers n _ rfl fun f _ => by cases f <;> rfl
    | changed n | intoStream n | next n =>
        have hn : n ≠ name := by simpa [Action.concerns] using ha
        simp only [act, actSubscriber]
        refine s.withNamed_elim s.followers n _ rfl fun f _ => ?_
        cases f <;> first | rfl | exact hput _ hn
  · rw [s.followers_act fun b hb => hsubscriber ⟨b, hb⟩]

/-- After the drop nothing else is done to the follower of a name. -/
theorem get?_followers_act (dropped : s.monitor.alive = false) (ha : a.concerns name = false) :
    (s.act a).1.followers.get? name = s.followers.get? name :=
  get?_followers_act_of_other (fun alive => absurd (alive.symm.trans dropped) nofun) ha

theorem asked?_of_next?_eq_none {r : Resource} {answer : Answer} (h : answer.next? r = none) :
    asked? name r (a, answer) = none := by
  unfold asked?
  split
  · next heq =>
      obtain ⟨-, rfl⟩ := Prod.mk.inj heq
      rw [h, ite_self]
  · next heq =>
      obtain ⟨-, rfl⟩ := Prod.mk.inj heq
      rw [h, ite_self]
  · rfl

theorem asked?_eq_none {r : Resource} {answer : Answer} (ha : a.concerns name = false) :
    asked? name r (a, answer) = none := by
  unfold asked?
  split
  · next heq =>
      obtain ⟨rfl, -⟩ := Prod.mk.inj heq
      exact if_neg (by simpa [Action.concerns] using ha)
  · next heq =>
      obtain ⟨rfl, -⟩ := Prod.mk.inj heq
      exact if_neg (by simpa [Action.concerns] using ha)
  · rfl

/-- Once the store is gone a follower is told the last listing, unless it has been given that, and
then that it is over. -/
theorem concludes_replies (hgone : s.monitor.storeGone = true) {f : Follower}
    (hf : s.followers.get? name = some f) {r : Resource} (hr : f.resource = r) {run : List Action}
    (hkept : .subscriber (.intoStream name) ∉ run) :
    Concludes .ended
      (if f.isDue s.monitor then some (.snapshot (s.monitor.snapshot r)) else none)
      (replies name r (s.trace run)) := by
  induction run generalizing s f with
  | nil => split <;> trivial
  | cons a rest ih =>
      rw [List.mem_cons, not_or] at hkept
      have hleads := s.monitor_leads_act a
      obtain ⟨hgone', hstore⟩ := Monitor.storeGone_of_leads hleads hgone
      have hsnapshot : (s.act a).1.monitor.snapshot r = s.monitor.snapshot r :=
        congrArg (fun store : Store => (store.get r).value) hstore
      have hnext {f' : Follower} (hf' : (s.act a).1.followers.get? name = some f')
          (hr' : f'.resource = r) := ih hgone' hf' hr' hkept.2
      rw [trace_cons]
      by_cases hinquiry : a = .subscriber (f.inquiry name)
      · subst hinquiry hr
        obtain ⟨f', hact, hr', hdue⟩ := exists_act_inquiry hf
        have hf' : (s.act (.subscriber (f.inquiry name))).1.followers.get? name = some f' := by
          rw [hact]
          exact s.followers.get?_put_self name f'
        have hrest := hnext hf' hr'
        rw [f'.isDue_congr (congrArg (EachResource.get · f'.resource) hstore), hdue] at hrest
        have hreplies : ∀ (n : Next f.resource.Record) (l : List (Action × Answer)),
            replies name f.resource
              ((.subscriber (f.inquiry name), .next f.resource n) :: l) =
              n :: replies name f.resource l := by
          intro n l
          cases f <;> simp [replies, asked?, Follower.inquiry]
        rw [hact] at hrest ⊢
        rw [hreplies, Follower.reply, hgone]
        cases f.isDue s.monitor with
        | true => exact ⟨rfl, hrest⟩
        | false => exact ⟨rfl, hrest⟩
      · -- It is not asked, or not in a way that fits.
        have hskip : asked? name r (a, (s.act a).2) = none ∧
            (s.act a).1.followers.get? name = some f := by
          cases hconcerns : a.concerns name with
          | false =>
              have dropped := (Monitor.storeGone_iff.mp hgone).1
              exact ⟨asked?_eq_none hconcerns, (get?_followers_act dropped hconcerns).trans hf⟩
          | true =>
              have hasks : a = .subscriber (.changed name) ∨ a = .subscriber (.next name) := by
                have hcases := Action.eq_of_concerns hconcerns
                rw [← or_assoc] at hcases
                exact hcases.resolve_right (Ne.symm hkept.1)
              rw [act_of_unfit hf hasks hinquiry]
              exact ⟨asked?_of_next?_eq_none rfl, hf⟩
        have hrest := hnext hskip.2 hr
        rw [f.isDue_congr (congrArg (EachResource.get · f.resource) hstore), hsnapshot] at hrest
        rw [replies, List.filterMap_cons_none hskip.1]
        exact hrest

end Session

end BrokerMonitor
