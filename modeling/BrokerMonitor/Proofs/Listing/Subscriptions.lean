import BrokerMonitor.Proofs.Listing.Publication
/-!
# The subscriptions of a session

For each resource a session is a publication: the resource's slot, and the subscriptions to it.
Every action is a series of events of it, and the calls of a subscription are answered with the
replies (`publication_act`, `answer_call`). So a session's subscriptions see what those of a
publication see (`subscriptions_see_the_latest`).
-/

namespace BrokerMonitor

open Publication (Call Event Reply)

/-- The follower, if it is a subscription to `r`. -/
def Follower.subscription? (r : Resource) : Follower → Option (Subscription r.Record)
  | .subscription q f => if h : q = r then some (h ▸ f) else none
  | .stream .. => none

@[simp] theorem Follower.subscription?_self (r : Resource) (f : Subscription r.Record) :
    (Follower.subscription r f).subscription? r = some f := dif_pos rfl

theorem Follower.subscription?_of_ne {q r : Resource} (h : q ≠ r) (f : Subscription q.Record) :
    (Follower.subscription q f).subscription? r = none := dif_neg h

/-- The call of a subscription to `r` that an action is. -/
def SubscriberAction.call? (r : Resource) : SubscriberAction → Option (String × Call)
  | .subscribe name q => if q = r then some (name, .subscribe) else none
  | .current name => some (name, .current)
  | .latest name => some (name, .latest)
  | .changed name => some (name, .changed)
  | .intoStream name => some (name, .leave)
  | _ => none

/-- The answer that a reply is. -/
def Publication.Reply.answer (r : Resource) : Reply r.Record → Answer
  | .done => .done
  | .missing => .missing .name
  | .snapshot s => .snapshot r s
  | .next n => .next r n

namespace Publication

variable {α : Type} {p : Publication α}

/-- What changes nothing but the slot and the end of the store is a series of events. -/
theorem exists_actAll_eq {slot : Slot α} {gone : Bool} {ws : List (Slot.Write α)}
    (hslot : slot = p.slot.writeAll ws)
    (hgone : p.gone = true → gone = true ∧ slot = p.slot) :
    ∃ events, p.actAll events = { p with slot, gone } := by
  cases hp : p.gone with
  | true =>
      obtain ⟨rfl, rfl⟩ := hgone hp
      exact ⟨[], by rw [← hp]; rfl⟩
  | false =>
      have hwrites : ∀ (q : Publication α) (ws : List (Slot.Write α)), q.gone = false →
          q.actAll (ws.map .write) = { q with slot := q.slot.writeAll ws } := by
        intro q ws hq
        induction ws generalizing q with
        | nil => rfl
        | cons w ws ih =>
            have hact : (q.act (.write w)).1 = { q with slot := q.slot.write w } := by
              simp [act, hq]
            rw [List.map_cons, actAll_cons, hact]
            exact ih { q with slot := q.slot.write w } hq
      cases gone with
      | false => exact ⟨ws.map .write, by rw [hwrites p ws hp, hslot, ← hp]⟩
      | true =>
          refine ⟨ws.map .write ++ [.drop], ?_⟩
          rw [actAll_append, hwrites p ws hp, hslot]
          rfl

end Publication

namespace Session

variable {s : Session} {r : Resource}

/-- The slot of a resource and the subscriptions to it. -/
def publication (s : Session) (r : Resource) : Publication r.Record where
  slot := s.monitor.store.get r
  gone := s.monitor.storeGone
  readers name := (s.followers.get? name).bind (·.subscription? r)

theorem readers_put (s : Session) (r : Resource) (name : String) (f : Follower) :
    ({ s with followers := s.followers.put name f } : Session).publication r =
      (s.publication r).put name (f.subscription? r) := by
  rw [publication, publication, Publication.put]
  congr 1
  funext other
  simp only [Roster.get?_put, Function.update_apply]
  split <;> rfl

theorem exists_subscription {name : String} (h : (s.publication r).readers name ≠ none) :
    ∃ f, s.followers.get? name = some (.subscription r f) ∧
      (s.publication r).readers name = some f := by
  have hreaders : (s.publication r).readers name =
      (s.followers.get? name).bind (·.subscription? r) := rfl
  rw [hreaders] at h ⊢
  cases hf : s.followers.get? name with
  | none => simp [hf] at h
  | some f =>
      cases f with
      | stream q f => simp [hf, Follower.subscription?] at h
      | subscription q f =>
          by_cases hq : q = r
          · subst hq
            exact ⟨f, rfl, Follower.subscription?_self q f⟩
          · simp [hf, Follower.subscription?_of_ne hq] at h

/-- A call of a subscription is answered with the reply. -/
theorem answer_call {a : SubscriberAction} {name : String} {c : Call}
    (hcall : a.call? r = some (name, c)) (halive : c = .subscribe → s.monitor.alive = true)
    (hthere : c ≠ .subscribe → (s.publication r).readers name ≠ none) :
    (s.actSubscriber a).1.publication r = ((s.publication r).act (.call name c)).1 ∧
      (s.actSubscriber a).2 = ((s.publication r).act (.call name c)).2.answer r := by
  cases a with
  | subscribe n q =>
      simp only [SubscriberAction.call?] at hcall
      split at hcall
      · next hq =>
          subst hq
          cases hcall
          have alive := halive rfl
          have hhere : (s.publication q).gone = false := by
            simp [publication, Monitor.storeGone, alive]
          simp only [actSubscriber, alive, if_true, readers_put, Publication.act, Publication.call,
            hhere, Follower.subscription?_self]
          exact ⟨rfl, rfl⟩
      · cases hcall
  | current n | latest n =>
      cases hcall
      obtain ⟨f, hf, hreader⟩ := exists_subscription (hthere (by decide))
      simp only [actSubscriber, withNamed, hf, Publication.act, Publication.call, hreader]
      exact ⟨trivial, rfl⟩
  | changed n =>
      cases hcall
      obtain ⟨f, hf, hreader⟩ := exists_subscription (hthere (by decide))
      simp only [actSubscriber, withNamed, hf, changed, readers_put, Publication.act,
        Publication.call, hreader, Follower.subscription?_self]
      exact ⟨rfl, rfl⟩
  | intoStream n =>
      cases hcall
      obtain ⟨f, hf, -⟩ := exists_subscription (hthere (by decide))
      simp only [actSubscriber, withNamed, hf, readers_put]
      exact ⟨rfl, rfl⟩
  | _ => cases hcall

/-- Every action is a series of events. -/
theorem publication_act (s : Session) (a : Action) (r : Resource) :
    ∃ events, (s.publication r).actAll events = (s.act a).1.publication r := by
  by_cases hsubscriber : ∃ b, a = .subscriber b
  · obtain ⟨b, rfl⟩ := hsubscriber
    -- What follows another resource, or follows as a stream, is no subscription to this one.
    have hother : ∀ (name : String) (f : Follower), f.subscription? r = none → ∃ events,
        (s.publication r).actAll events =
          ({ s with followers := s.followers.put name f } : Session).publication r := by
      intro name f hf
      rw [readers_put, hf]
      exact ⟨[.call name .leave], rfl⟩
    have hcalled : ∀ {name : String} {c : Call}, b.call? r = some (name, c) →
        (c = .subscribe → s.monitor.alive = true) →
        (c ≠ .subscribe → (s.publication r).readers name ≠ none) →
        ∃ events, (s.publication r).actAll events = (s.actSubscriber b).1.publication r :=
      fun hcall halive hthere => ⟨[.call _ _], (answer_call hcall halive hthere).1.symm⟩
    cases b with
    | observe n | watch n =>
        simp only [act, actSubscriber]
        split <;> exact ⟨[], rfl⟩
    | seen n =>
        simp only [act, actSubscriber]
        refine s.withNamed_elim s.observers n _ ⟨[], rfl⟩ fun i _ => ?_
        unfold seen
        split <;> exact ⟨[], rfl⟩
    | unobserve n =>
        simp only [act, actSubscriber]
        exact s.withNamed_elim s.observers n _ ⟨[], rfl⟩ fun _ _ => ⟨[], rfl⟩
    | watched n =>
        simp only [act, actSubscriber]
        exact s.withNamed_elim s.watches n _ ⟨[], rfl⟩ fun _ _ => ⟨[], rfl⟩
    | current n | latest n =>
        simp only [act, actSubscriber]
        exact s.withNamed_elim s.followers n _ ⟨[], rfl⟩ fun f _ => by cases f <;> exact ⟨[], rfl⟩
    | subscribe n q =>
        cases alive : s.monitor.alive with
        | false => exact ⟨[], by simp [act, actSubscriber, alive, Publication.actAll]⟩
        | true =>
            by_cases hq : q = r
            · exact hcalled (if_pos hq) (fun _ => alive) (absurd rfl)
            · simp only [act, actSubscriber, alive, if_true]
              exact hother n _ (Follower.subscription?_of_ne hq _)
    | changed n =>
        simp only [act, actSubscriber]
        refine s.withNamed_elim s.followers n _ ⟨[], rfl⟩ fun f hf => ?_
        cases f with
        | stream q f => exact ⟨[], rfl⟩
        | subscription q f =>
            by_cases hq : q = r
            · subst hq
              have hthere : (s.publication q).readers n ≠ none := by simp [publication, hf]
              have hchanged := hcalled rfl (fun h => by cases h) fun _ => hthere
              simpa only [actSubscriber, withNamed, hf] using hchanged
            · exact hother n _ (Follower.subscription?_of_ne hq _)
    | intoStream n =>
        simp only [act, actSubscriber]
        refine s.withNamed_elim s.followers n _ ⟨[], rfl⟩ fun f _ => ?_
        cases f with
        | stream q f => exact ⟨[], rfl⟩
        | subscription q f => exact hother n _ rfl
    | next n =>
        simp only [act, actSubscriber]
        refine s.withNamed_elim s.followers n _ ⟨[], rfl⟩ fun f _ => ?_
        cases f with
        | stream q f => exact hother n _ rfl
        | subscription q f => exact ⟨[], rfl⟩
  · have hfollowers := s.followers_act fun b hb => hsubscriber ⟨b, hb⟩
    have hleads := s.monitor_leads_act a
    obtain ⟨ws, hws⟩ := Monitor.exists_writeAll_of_leads hleads r
    have hgone : (s.publication r).gone = true →
        (s.act a).1.monitor.storeGone = true ∧
          (s.act a).1.monitor.store.get r = (s.publication r).slot := by
      intro h
      obtain ⟨hgone, hstore⟩ := Monitor.storeGone_of_leads hleads h
      exact ⟨hgone, by rw [hstore]; rfl⟩
    obtain ⟨events, hevents⟩ := Publication.exists_actAll_eq hws hgone
    refine ⟨events, hevents.trans ?_⟩
    rw [publication, publication, hfollowers]

end Session

namespace Publication

/-- Take any slot, and any writes to it, calls by any number of names, and the end of its store, in
any order. Whoever has a subscription then has a mark: they subscribed there or were given a change
there, and were left in peace since. What they are answered now is told by the mark:

* `current` is what the slot held at the mark, and `latest` what it holds now; neither moves
  anything.
* `changed` is pending as long as there was no reset and no accepted replacement since the mark.
  If there was, it gives what the slot holds now, and then `current` is the same.
* `changed` is over instead of pending if the store is gone. The slot then holds what it held at
  the mark, and it will hold that for ever.

A replacement that the slot rejects changes nothing at all, so nobody sees it; and leaving out the
calls of all others changes no reply. The actions of a session are such events for each resource,
and the answers to a session's subscriptions are the replies. -/
theorem subscriptions_see_the_latest {α : Type} (slot : Slot α) (run : List (Event α))
    (name : String) :
    let start : Publication α := { slot }
    let now := start.actAll run
    (now.readers name ≠ none → ∃ first e later, run = first ++ e :: later ∧
      let before := start.actAll first
      let marked := (before.act e).1
      marks name (e, (before.act e).2) = true ∧
      (∀ entry ∈ marked.trace later, isQuiet name entry = true) ∧
      ((before.act e).2 = .done ∨ (before.act e).2 = .next (.snapshot before.slot.value)) ∧
      now.act (.call name .current) = (now, .snapshot before.slot.value) ∧
      now.act (.call name .latest) = (now, .snapshot now.slot.value) ∧
      (marked.changes later = 0 →
        now.act (.call name .changed) = (now, .next (if now.gone then .ended else .pending))) ∧
      (marked.changes later ≠ 0 → ∃ after,
        now.act (.call name .changed) = (after, .next (.snapshot now.slot.value)) ∧
        after.act (.call name .current) = (after, .snapshot now.slot.value)) ∧
      ((now.act (.call name .changed)).2 = .next .ended →
        now.gone = true ∧ now.slot.value = before.slot.value ∧
        ∀ more, (now.actAll more).slot = now.slot)) ∧
    (∀ w, now.slot.accepts w = false → now.act (.write w) = (now, .done)) ∧
    (start.trace run).filter (·.1.isFor name) = start.trace (run.filter (·.isFor name)) ∧
    (∀ (s : Session) (a : Action) (r : Resource),
      ∃ events, (s.publication r).actAll events = (s.act a).1.publication r) ∧
    ∀ (s : Session) (a : SubscriberAction) (r : Resource) (name : String) (c : Call),
      a.call? r = some (name, c) → (c = .subscribe → s.monitor.alive = true) →
      (c ≠ .subscribe → (s.publication r).readers name ≠ none) →
      (s.actSubscriber a).1.publication r = ((s.publication r).act (.call name c)).1 ∧
        (s.actSubscriber a).2 = ((s.publication r).act (.call name c)).2.answer r := by
  intro start now
  refine ⟨?_, ?_, trace_filter ⟨rfl, rfl, rfl⟩ run, Session.publication_act, ?_⟩
  · intro hthere
    have hnobody : start.readers name = none := rfl
    obtain ⟨first, e, later, rfl, hmark, hquiet⟩ := exists_mark hnobody hthere
    refine ⟨first, e, later, rfl, ?_⟩
    intro before marked
    have hnow : marked.actAll later = now := (start.actAll_append first (e :: later)).symm
    obtain ⟨hcurrent, hlatest, hchanged⟩ := answers_of_marked hmark hquiet
    obtain ⟨hreader, hslot, hreply⟩ := readers_of_marked hmark
    rw [hnow] at hcurrent hlatest hchanged
    have hpending (hnone : marked.changes later = 0) : now.act (.call name .changed) =
        (now, .next (if now.gone then .ended else .pending)) := hchanged.trans (if_pos hnone)
    have hnews (hsome : marked.changes later ≠ 0) : now.act (.call name .changed) =
        (now.put name (some (.start now.slot)), .next (.snapshot now.slot.value)) :=
      hchanged.trans (if_neg hsome)
    refine ⟨hmark, hquiet, hreply, hcurrent, hlatest, hpending, ?_, ?_⟩
    · intro hsome
      refine ⟨_, hnews hsome, ?_⟩
      simp [act, call, put, Subscription.start]
    · intro hended
      by_cases hnone : marked.changes later = 0
      · have hgone : now.gone = true := by
          by_contra hhere
          simp [hpending hnone, hhere] at hended
        have hsame : now.slot = before.slot := by
          rw [← hnow, slot_actAll_of_no_changes hnone, hslot]
        exact ⟨hgone, congrArg Cell.value hsame, fun more => (actAll_of_gone hgone more).2⟩
      · simp [hnews hnone] at hended
  · intro w hw
    simp [act, Slot.write_of_rejected hw]
  · intro s a r name c hcall halive hthere
    exact Session.answer_call hcall halive hthere

/-- Where nothing behind the first event can be a mark, the mark is the first event. -/
theorem eq_of_marks {α : Type} {name : String} {first later rest : List (Event α)} {e e' : Event α}
    {reply : Reply α} (hrun : e' :: rest = first ++ e :: later)
    (hmark : marks name (e, reply) = true)
    (hrest : ∀ e ∈ rest, ∀ reply, marks name (e, reply) = false) :
    first = [] ∧ e = e' ∧ later = rest := by
  cases first with
  | nil =>
      obtain ⟨rfl, rfl⟩ := List.cons.inj hrun
      exact ⟨rfl, rfl, rfl⟩
  | cons _ first =>
      have he : e ∈ rest := (List.cons.inj hrun).2 ▸ by simp
      rw [hrest e he reply] at hmark
      cases hmark

/-- A look at the latest listing does not use up the news of it, a rejected listing is none, and the
end comes only to those who have no news left. -/
theorem subscriptions_see_the_latest_before_the_end :
    let start : Publication String := { slot := Slot.initial }
    let rejected : Event String := .write (.replace ⟨1⟩ ["y"])
    let behind := start.actAll [.call "a" .subscribe, .write (.replace .initial ["x"]),
      .call "a" .latest, rejected, .drop]
    let abreast := start.actAll [.call "a" .subscribe, rejected, .drop]
    behind.act (.call "a" .current) = (behind, .snapshot ⟨.initial, [], 0⟩) ∧
    behind.act (.call "a" .latest) = (behind, .snapshot ⟨.initial, ["x"], 1⟩) ∧
    (∃ after, behind.act (.call "a" .changed) = (after, .next (.snapshot ⟨.initial, ["x"], 1⟩)) ∧
      after.act (.call "a" .current) = (after, .snapshot ⟨.initial, ["x"], 1⟩)) ∧
    abreast.act (.call "a" .changed) = (abreast, .next .ended) := by
  intro start rejected behind abreast
  have hbehind := (subscriptions_see_the_latest Slot.initial [.call "a" .subscribe,
    .write (.replace .initial ["x"]), .call "a" .latest, rejected, .drop] "a").1 nofun
  have habreast := (subscriptions_see_the_latest Slot.initial [.call "a" .subscribe, rejected,
    .drop] "a").1 nofun
  obtain ⟨first, e, later, hrun, hmark, -, -, hcurrent, hlatest, -, hchanged, -⟩ := hbehind
  obtain ⟨rfl, rfl, rfl⟩ := eq_of_marks hrun hmark (by simp [marks, rejected])
  refine ⟨hcurrent, hlatest, hchanged (by decide), ?_⟩
  obtain ⟨first, e, later, hrun, hmark, -, -, -, -, hpending, -⟩ := habreast
  obtain ⟨rfl, rfl, rfl⟩ := eq_of_marks hrun hmark (by simp [marks, rejected])
  exact hpending (by decide)

end Publication

end BrokerMonitor
