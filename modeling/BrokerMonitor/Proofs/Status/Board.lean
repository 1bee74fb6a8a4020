import BrokerMonitor.Proofs.Run.Reading
import BrokerMonitor.Proofs.Status.Exact
/-!
# What the board tells

The board tells its status to whoever asks, and sends it to every line. `Tells` follows a property
of statuses through both. `Shows` says that the board is exact and up to date with a reporter of its
generation. A reporter only moves up, so whatever it says next finds its resource listed below that,
and the board stays exact through all that is said in one run of a task.
-/

namespace BrokerMonitor

namespace StatusBoard

variable {b : StatusBoard} {P Q : BrokerStatus → Prop}

/-- Whoever asks the board or takes from a line of it is told only what satisfies `P`. -/
structure Tells (b : StatusBoard) (P : BrokerStatus → Prop) : Prop where
  current : P b.current
  sent : ∀ l ∈ b.listeners, ∀ s ∈ l.inbox, P s

namespace Tells

theorem mono (h : b.Tells P) (hPQ : ∀ s, P s → Q s) : b.Tells Q :=
  ⟨hPQ _ h.current, fun l hl s hs => hPQ s (h.sent l hl s hs)⟩

theorem publish (h : b.Tells P) {s : BrokerStatus} (hs : P s) : (b.publish s).Tells P := by
  refine ⟨hs, ?_⟩
  intro l hl s' hs'
  obtain ⟨k, hk, rfl⟩ := List.mem_map.mp hl
  unfold Listener.send at hs'
  split at hs'
  · split at hs'
    · rcases List.mem_append.mp hs' with hs' | hs'
      · exact h.sent k hk s' hs'
      · exact List.mem_singleton.mp hs' ▸ hs
    · exact h.sent k hk s' hs'
  · exact h.sent k hk s' hs'

theorem report (h : b.Tells P) {r : Report} (hr : P (b.report r).current) :
    (b.report r).Tells P := by
  unfold StatusBoard.report at hr ⊢
  split
  · next s hs =>
      rw [hs] at hr
      exact h.publish hr
  · exact h

/-- What reports on the current generation do not spoil is told throughout. -/
theorem reports (h : b.Tells P) {reports : List Report}
    (hP : ∀ st told st', st.generation = b.current.generation → told ∈ reports → P st →
      st.accept? told = some st' → P st') : (b.reportAll reports).Tells P := by
  induction reports generalizing b with
  | nil => exact h
  | cons told rest ih =>
      have hfirst : P (b.report told).current := by
        unfold StatusBoard.report
        split
        · next s hs => exact hP _ told s rfl List.mem_cons_self h.current hs
        · exact h.current
      refine ih (h.report hfirst) ?_
      intro st told' st' hst htold hPst haccept
      rw [generation_report] at hst
      exact hP st told' st' hst (List.mem_cons_of_mem _ htold) hPst haccept

theorem listen (h : b.Tells P) : b.listen.1.Tells P := by
  refine ⟨h.current, ?_⟩
  intro l hl s hs
  rcases List.mem_append.mp hl with hl | hl
  · exact h.sent l hl s hs
  · obtain rfl := List.mem_singleton.mp hl
    exact List.mem_singleton.mp hs ▸ h.current

theorem take (h : b.Tells P) (i : Nat) : (b.take i).1.Tells P ∧ ∀ s ∈ (b.take i).2, P s := by
  unfold StatusBoard.take
  split
  · next l hl =>
      have hmem := List.mem_of_getElem? hl
      refine ⟨⟨h.current, ?_⟩, h.sent l hmem⟩
      intro k hk s hs
      rcases List.mem_or_eq_of_mem_set hk with hk | rfl
      · exact h.sent k hk s hs
      · cases hs
  · exact ⟨h, fun _ hs => nomatch hs⟩

theorem unlisten (h : b.Tells P) (i : Nat) : (b.unlisten i).Tells P := by
  refine ⟨h.current, ?_⟩
  intro l hl s hs
  obtain ⟨j, hj⟩ := List.mem_iff_getElem?.mp hl
  simp only [StatusBoard.unlisten, List.getElem?_modify] at hj
  obtain ⟨k, hk, rfl⟩ := Option.map_eq_some_iff.mp hj
  split at hs
  · cases hs
  · exact h.sent k (List.mem_of_getElem? hk) s hs

end Tells

/-- The board is exact, and up to date with a reporter of its generation. -/
structure Shows (b : StatusBoard) (rep : Reporter) (attached : Bool) : Prop where
  exact : b.current.Exact attached
  generation : rep.generation = b.current.generation
  shown : b.current.streams.get? rep.resource = some (rep.last.getD .idle)

namespace Shows

variable {rep : Reporter} {attached : Bool}

/-- No status is news to a reporter that has passed on `streaming`. -/
theorem ne_streaming {s : StreamStatus} (hnews : rep.isNews s = true) :
    rep.last.getD .idle ≠ .streaming := by
  unfold Reporter.isNews at hnews
  split at hnews
  · next hlast => simp [hlast]
  · next l hlast =>
      rw [hlast]
      rintro rfl
      cases s <;> simp at hnews <;> contradiction

/-- What a reporter says next keeps the board exact and up to date with it. -/
theorem report (h : b.Shows rep attached) {s : StreamStatus}
    (hidle : attached = false → s = .idle) :
    (b.reportAll (rep.report s).2.toList).Shows (rep.report s).1 attached := by
  cases hrep : (rep.report s).2 with
  | none =>
      rw [Reporter.report_eq_none hrep]
      exact h
  | some told =>
      obtain ⟨hnews, rfl, hafter⟩ := Reporter.report_eq_some hrep
      have htaken := (b.current.accept?_isSome_iff ⟨rep.resource, _, s⟩).mpr h.generation
      obtain ⟨st, hst⟩ := Option.isSome_iff_exists.mp htaken
      have hboard : b.reportAll [⟨rep.resource, rep.generation, s⟩] = b.publish st := by
        simp [reportAll, StatusBoard.report, hst]
      rw [hafter, Option.toList_some, hboard]
      have hkeep : b.current.streams.get? rep.resource ≠ some .streaming := by
        rw [h.shown]
        simpa using ne_streaming hnews
      refine ⟨h.exact.accept? hst hkeep hidle, ?_, ?_⟩
      · exact h.generation.trans (BrokerStatus.generation_of_accept? hst).symm
      · rw [current_publish, BrokerStatus.streams_of_accept? hst]
        exact ResourceMap.get?_insert_self ..

/-- The same for all that a reporter says in one run of its task. -/
theorem reportAll (h : b.Shows rep attached) {said : List StreamStatus}
    (hidle : attached = false → ∀ s ∈ said, s = .idle) :
    (b.reportAll (rep.reportAll said).2).Shows (rep.reportAll said).1 attached := by
  induction said generalizing b rep with
  | nil => exact h
  | cons s rest ih =>
      rw [Reporter.reportAll_cons, reportAll_append]
      exact ih (h.report fun ha => hidle ha s List.mem_cons_self)
        fun ha s' hs' => hidle ha s' (List.mem_cons_of_mem s hs')

end Shows

/-- What is told while a reporter goes on satisfies whatever holds of the exact statuses of its
generation. -/
theorem Tells.reportAll {rep : Reporter} {attached : Bool} (h : b.Tells P)
    (hshow : b.Shows rep attached) {said : List StreamStatus}
    (hidle : attached = false → ∀ s ∈ said, s = .idle)
    (hP : ∀ st : BrokerStatus, st.Exact attached → st.generation = rep.generation → P st) :
    (b.reportAll (rep.reportAll said).2).Tells P := by
  induction said generalizing b rep with
  | nil => exact h
  | cons s rest ih =>
      have hnext := hshow.report fun ha => hidle ha s List.mem_cons_self
      have htold : (b.reportAll (rep.report s).2.toList).Tells P := by
        have hcurrent := hP _ hnext.exact (hnext.generation.symm.trans (rep.report_generation s))
        cases hrep : (rep.report s).2 with
        | none => exact h
        | some told =>
            rw [hrep] at hcurrent
            exact h.report hcurrent
      rw [Reporter.reportAll_cons, reportAll_append]
      refine ih htold hnext (fun ha s' hs' => hidle ha s' (List.mem_cons_of_mem s hs')) ?_
      intro st hst hg
      exact hP st hst (hg.trans (rep.report_generation s))

/-- Reports on one resource leave the others as they were. -/
theorem get?_reportAll_of_ne {r : Resource} {reports : List Report}
    (h : ∀ told ∈ reports, r ≠ told.resource) :
    (b.reportAll reports).current.streams.get? r = b.current.streams.get? r := by
  induction reports generalizing b with
  | nil => rfl
  | cons told rest ih =>
      obtain ⟨hne, hrest⟩ := List.forall_mem_cons.mp h
      refine (ih (b := b.report told) hrest).trans ?_
      unfold report
      split
      · next st hst =>
          rw [current_publish, BrokerStatus.streams_of_accept? hst]
          exact ResourceMap.get?_insert_of_ne _ _ hne
      · rfl

end StatusBoard

end BrokerMonitor
