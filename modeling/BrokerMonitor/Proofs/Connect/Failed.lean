import BrokerMonitor.Proofs.Connect.Refusal
/-!
# A failed connect is invisible

A connect fails because its text is no endpoint or because no transport can be made. In the first
case nothing has changed at all. In the second case the connect has used up the refusal that was
waiting for it, and nothing else.

Whether a refusal is waiting shows in no answer until something asks for a transport. Deleting a
failed connect from a run, together with the refusals that were waiting for it, thus leaves the
session as it is, and with it everything that comes later.
-/

namespace BrokerMonitor

namespace Monitor

theorem alive_run (m : Monitor) (j : Job) : (m.run j).alive = m.alive := by
  obtain ⟨_, _, _, _, _, _, _, hrun⟩ := m.exists_run_eq j
  rw [hrun]

/-- A monitor that has been dropped stays so. -/
theorem alive_of_leads {m m' : Monitor} (h : m.Leads m') (alive : m'.alive = true) :
    m.alive = true := by
  induction h with
  | refl => exact alive
  | tail _ step ih =>
      refine ih ?_
      cases step with
      | drop => cases alive
      | run j => exact (alive_run _ j).symm.trans alive
      | _ => exact alive

end Monitor

namespace Session

/-- As long as nothing asks for a transport it does not show whether a refusal is waiting. -/
theorem trace_withRefusal (s : Session) (r : Option StreamError) {run : List Action}
    (h : run.any Action.asksTransport = false) :
    (s.withRefusal r).trace run = s.trace run ∧
      ∃ r', (s.withRefusal r).actAll run = (s.actAll run).withRefusal r' := by
  induction run generalizing s r with
  | nil => exact ⟨rfl, r, rfl⟩
  | cons a rest ih =>
      rw [List.any_cons, Bool.or_eq_false_iff] at h
      obtain ⟨hasks, hrest⟩ := h
      obtain ⟨r', hact⟩ : ∃ r', (s.withRefusal r).act a = holding r' (s.act a) := by
        cases hrefusal : a.isRefusal with
        | false => exact ⟨r, s.act_withRefusal r hasks hrefusal⟩
        | true =>
            obtain ⟨e, rfl⟩ := Action.eq_refuse hrefusal
            exact ⟨some e, rfl⟩
      obtain ⟨htrace, r'', hall⟩ := ih (s.act a).1 r' hrest
      rw [trace_cons, trace_cons, actAll_cons, actAll_cons, hact]
      exact ⟨congrArg _ htrace, r'', hall⟩

end Session

/-- Deletes from a run the refusals that no connect of the run has met: those behind which nothing
asks for a transport. Entries of a run are actions, alone or with their answers. -/
def withoutPending {α : Type} (action : α → Action) : List α → List α
  | [] => []
  | a :: rest =>
    if (action a).isRefusal && !rest.any fun b => (action b).asksTransport then
      withoutPending action rest
    else a :: withoutPending action rest

namespace Session

variable {s : Session}

theorem withRefusal_self {s : Session} {r : Option StreamError} (h : s.monitor.refusal = r) :
    s.withRefusal r = s := by
  subst h
  rfl

theorem act_connect_of_alive (alive : s.monitor.alive = true) (name url : String) :
    s.act (.connection (.connect name url)) = s.connect name url := if_pos alive

/-- A connect that asks for a transport leaves no refusal waiting. -/
theorem refusal_of_asksTransport {a : Action} (alive : s.monitor.alive = true)
    (h : a.asksTransport = true) : (s.act a).1.monitor.refusal = none := by
  unfold Action.asksTransport at h
  split at h
  · next name url =>
      cases hparse : Endpoint.parse url with
      | error e => simp [hparse, Except.isOk, Except.toBool] at h
      | ok endpoint =>
          simp only [act_connect_of_alive alive, connect, Monitor.connect, hparse]
          cases hrefusal : s.monitor.refusal with
          | some e => rfl
          | none => cases s.monitor.generation.next? <;> exact hrefusal
  · cases h

/-- Only a refusal makes a refusal wait. -/
theorem refusal_act {a : Action} (alive : s.monitor.alive = true) (hrefusal : a.isRefusal = false)
    (h : s.monitor.refusal = none ∨ a.asksTransport = true) :
    (s.act a).1.monitor.refusal = none := by
  cases hasks : a.asksTransport with
  | true => exact refusal_of_asksTransport alive hasks
  | false =>
      have hnone : s.monitor.refusal = none := by simpa [hasks] using h
      have hact := s.act_withRefusal none hasks hrefusal
      rw [withRefusal_self hnone] at hact
      rw [hact]
      rfl

/-- Without the refusals that no connect has met, a run gets the same answers and leads to the same
session, in which no refusal is waiting. -/
theorem withoutPending_run {before : List Action}
    (alive : (s.actAll before).monitor.alive = true)
    (h : s.monitor.refusal = none ∨ before.any Action.asksTransport = true) :
    s.actAll (withoutPending id before) = (s.actAll before).withRefusal none ∧
      s.trace (withoutPending id before) = withoutPending Prod.fst (s.trace before) := by
  induction before generalizing s with
  | nil => exact ⟨(withRefusal_self (h.resolve_right (by simp))).symm, rfl⟩
  | cons a rest ih =>
      have alive' : s.monitor.alive = true :=
        Monitor.alive_of_leads (monitor_leads (s.leads_actAll (a :: rest))) alive
      rw [List.any_cons, Bool.or_eq_true] at h
      simp only [withoutPending, trace_cons, any_trace, id]
      by_cases hdelete : (a.isRefusal && !rest.any Action.asksTransport) = true
      · -- The refusal is deleted, and nothing behind it would have met it.
        obtain ⟨hrefusal, hrest⟩ := Bool.and_eq_true_iff.mp hdelete
        have hquiet : rest.any Action.asksTransport = false := by simpa using hrest
        obtain ⟨e, rfl⟩ := Action.eq_refuse hrefusal
        have hnone : s.monitor.refusal = none := by
          rcases h with h | h | h
          · exact h
          · cases h
          · exact absurd h (by simp [hquiet])
        have hact : (s.act (.broker (.refuse e))).1 = s.withRefusal (some e) := rfl
        obtain ⟨htrace, r, hall⟩ := s.trace_withRefusal (some e) hquiet
        rw [actAll_cons, hact, hall] at alive ⊢
        obtain ⟨hsession, htrace'⟩ := ih alive (.inl hnone)
        rw [if_pos hdelete, if_pos hdelete, htrace]
        exact ⟨hsession, htrace'⟩
      · rw [if_neg hdelete, if_neg hdelete, actAll_cons, actAll_cons, trace_cons]
        have hnext : (s.act a).1.monitor.refusal = none ∨
            rest.any Action.asksTransport = true := by
          cases hrest : rest.any Action.asksTransport with
          | true => exact .inr rfl
          | false =>
              have hrefusal : a.isRefusal = false := by simpa [hrest] using hdelete
              exact .inl (refusal_act alive' hrefusal (by simpa [hrest] using h))
        obtain ⟨hsession, htrace⟩ := ih alive hnext
        exact ⟨hsession, congrArg _ htrace⟩

/-- A connect that fails leaves the session as it was, or it was given an endpoint, has met a
refusal and used it up. -/
theorem connect_refused {name url : String} {e : MonitorError}
    (h : (s.act (.connection (.connect name url))).2 = .refused e) :
    s.monitor.alive = true ∧
    ((∃ reason, Endpoint.parse url = .error reason ∧ e = .ofStream reason ∧
      (s.act (.connection (.connect name url))).1 = s) ∨
    ∃ endpoint reason, Endpoint.parse url = .ok endpoint ∧ s.monitor.refusal = some reason ∧
      e = .ofStream reason ∧
      (s.act (.connection (.connect name url))).1 = s.withRefusal none) := by
  cases alive : s.monitor.alive with
  | false => simp [act, actConnection, alive] at h
  | true =>
      refine ⟨rfl, ?_⟩
      simp only [act_connect_of_alive alive, connect, Monitor.connect] at h ⊢
      cases hparse : Endpoint.parse url with
      | error reason =>
          rw [hparse] at h
          cases h
          exact .inl ⟨reason, rfl, rfl, rfl⟩
      | ok endpoint =>
          simp only [hparse] at h
          cases hrefusal : s.monitor.refusal with
          | some reason =>
              rw [hrefusal] at h
              cases h
              exact .inr ⟨endpoint, reason, rfl, rfl, rfl, rfl⟩
          | none =>
              simp only [hrefusal] at h
              cases hg : s.monitor.generation.next? <;> simp [hg] at h

/-- A connect that fails can be deleted from a run. If its text is no endpoint, then the run without
it gets the same answers to everything else, before and after, and leads to the same session. If it
was refused a transport, then the same holds when the refusals that were waiting are deleted with
it; and when they are not, no answer shows them until something else asks for a transport. -/
theorem failed_connect_is_invisible {rate : Option UInt32} {before : List Action}
    {name url : String} {e : MonitorError}
    (hfail : (((start rate).actAll before).act (.connection (.connect name url))).2 = .refused e)
    (after : List Action) :
    let c := Action.connection (.connect name url)
    let s := (start rate).actAll before
    let later := (s.act c).1.trace after
    (start rate).trace (before ++ c :: after) =
      (start rate).trace before ++ (c, .refused e) :: later ∧
    (∀ reason, Endpoint.parse url = .error reason →
      e = .ofStream reason ∧ (s.act c).1 = s ∧
      (start rate).actAll (before ++ after) = (start rate).actAll (before ++ c :: after) ∧
      (start rate).trace (before ++ after) = (start rate).trace before ++ later) ∧
    ∀ endpoint, Endpoint.parse url = .ok endpoint →
      (∃ reason, s.monitor.refusal = some reason ∧ e = .ofStream reason) ∧
      (s.act c).1 = s.withRefusal none ∧
      (start rate).actAll (withoutPending id before ++ after) =
        (start rate).actAll (before ++ c :: after) ∧
      (start rate).trace (withoutPending id before ++ after) =
        withoutPending Prod.fst ((start rate).trace before) ++ later ∧
      (after.any Action.asksTransport = false →
        (start rate).trace (before ++ after) = (start rate).trace before ++ later) := by
  intro c s later
  obtain ⟨alive, hcases⟩ := connect_refused hfail
  have hwith : (start rate).trace (before ++ c :: after) =
      (start rate).trace before ++ (c, .refused e) :: later := by
    rw [trace_append, trace_cons]
    exact congrArg (fun answer => _ ++ (c, answer) :: later) hfail
  refine ⟨hwith, ?_, ?_⟩
  · intro reason hparse
    obtain ⟨reason', hparse', he, hsame⟩ | ⟨endpoint, _, hparse', -⟩ := hcases
    · cases hparse.symm.trans hparse'
      refine ⟨he, hsame, ?_, ?_⟩
      · rw [actAll_append, actAll_append, actAll_cons]
        exact congrArg (·.actAll after) hsame.symm
      · rw [trace_append]
        exact congrArg (fun s => _ ++ s.trace after) hsame.symm
    · cases hparse.symm.trans hparse'
  · intro endpoint hparse
    obtain ⟨reason', hparse', -⟩ | ⟨endpoint', reason, -, hrefusal, he, hmet⟩ := hcases
    · cases hparse.symm.trans hparse'
    · obtain ⟨hsession, htrace⟩ := withoutPending_run (s := start rate) alive (.inl rfl)
      have hdeleted : (start rate).actAll (withoutPending id before) = (s.act c).1 :=
        hsession.trans hmet.symm
      refine ⟨⟨reason, hrefusal, he⟩, hmet, ?_, ?_, ?_⟩
      · rw [actAll_append, actAll_append, actAll_cons, hdeleted]
      · rw [trace_append, htrace, hdeleted]
      · intro hquiet
        rw [trace_append]
        have hshow := (s.trace_withRefusal none hquiet).1
        rw [← hmet] at hshow
        exact congrArg _ hshow.symm

/-- A connect that meets the only refusal goes without trace, and the next one succeeds as if it
were the first. -/
theorem refused_connect_is_invisible :
    let refused : Action := .connection (.connect "first" "http://[::1]")
    let again : List Action := [.connection (.connect "second" "http://[::1]"), .settle]
    (start none).actAll (.broker (.refuse (.transport "down")) :: refused :: again) =
      (start none).actAll again := by
  intro refused again
  obtain ⟨endpoint, hparse⟩ : ∃ endpoint, Endpoint.parse "http://[::1]" = .ok endpoint := by
    have hok : (Endpoint.parse "http://[::1]").isOk = true := by decide +kernel
    cases hparse : Endpoint.parse "http://[::1]" with
    | error reason => simp [hparse, Except.isOk, Except.toBool] at hok
    | ok endpoint => exact ⟨endpoint, rfl⟩
  have hfail : (((start none).actAll [.broker (.refuse (.transport "down"))]).act refused).2 =
      .refused (.transportFailure "down") := by
    rw [act_connect_of_alive rfl, connect, Monitor.connect, hparse]
    rfl
  obtain ⟨-, -, hok⟩ := failed_connect_is_invisible hfail again
  obtain ⟨-, -, hsession, -⟩ := hok endpoint hparse
  exact hsession.symm

end Session

end BrokerMonitor
