import Mathlib.Data.List.Chain
import Mathlib.Data.List.Infix
import BrokerMonitor.Proofs.Delivery.Following
import BrokerMonitor.Proofs.Status.Board
/-!
# Status traffic goes forward

With a connection, each report that a reporter passes on moves its resource up by one step: a stream
says that it is connecting before it says that it streams (`Reporter.Climbs`). So each status that
is computed in the generation is one step above the one before (`BrokerStatus.Advances`), and as
there are only so many steps to go, there are only so many statuses, whatever the broker sends.
Without a connection every report says what the status says already.
-/

namespace BrokerMonitor

/-- The status one step up. -/
def StreamStatus.next? : StreamStatus → Option StreamStatus
  | .idle => some .connecting
  | .connecting => some .streaming
  | .streaming => none

namespace BrokerStatus

variable {s t : BrokerStatus} {g : Generation} {l : List BrokerStatus}

/-- From `s` to `t` one resource moves up by one step, and the others stay where they are. Loading
may end and being connected may begin, but not the other way round. -/
structure Advances (s t : BrokerStatus) : Prop where
  generation : t.generation = s.generation
  moved : ∃ r x y, s.streams.get? r = some x ∧ x.next? = some y ∧ t.streams.get? r = some y ∧
    ∀ other, other ≠ r → t.streams.get? other = s.streams.get? other
  loading : t.loading = true → s.loading = true
  connected : s.connected = true → t.connected = true

/-- A report that moves its resource up by one step is such a change. -/
theorem advances_of_accept? {told : Report} (h : s.accept? told = some t) {x : StreamStatus}
    (hx : s.streams.get? told.resource = some x) (hnext : x.next? = some told.status) :
    s.Advances t := by
  have hstreams := streams_of_accept? h
  refine ⟨generation_of_accept? h, ⟨told.resource, x, _, hx, hnext, ?_, ?_⟩, ?_, ?_⟩
  · rw [hstreams]
    exact ResourceMap.get?_insert_self ..
  · intro other hother
    rw [hstreams]
    exact ResourceMap.get?_insert_of_ne _ _ hother
  all_goals
    unfold accept? at h
    split at h
    · obtain rfl := Option.some.inj h
      simp +contextual
    · cases h

/-! ### How many steps there are -/

/-- How many steps both resources together are above idle. -/
def height (s : BrokerStatus) : Nat :=
  (s.statusOf .channels).code.toNat + (s.statusOf .adapters).code.toNat

theorem height_le (s : BrokerStatus) : s.height ≤ 4 := by
  have hcode : ∀ x : StreamStatus, x.code.toNat ≤ 2 := by
    intro x
    cases x <;> decide
  have hchannels := hcode (s.statusOf .channels)
  have hadapters := hcode (s.statusOf .adapters)
  rw [height]
  omega

theorem Advances.height (h : s.Advances t) : t.height = s.height + 1 := by
  obtain ⟨r, x, y, hx, hnext, hy, hother⟩ := h.moved
  have hcode : y.code.toNat = x.code.toNat + 1 := by cases x <;> cases hnext <;> rfl
  cases r with
  | channels =>
      have hstays := hother .adapters (by decide)
      simp only [BrokerStatus.height, statusOf, hx, hy, hstays, Option.getD_some, hcode]
      omega
  | adapters =>
      have hstays := hother .channels (by decide)
      simp only [BrokerStatus.height, statusOf, hx, hy, hstays, Option.getD_some, hcode]
      omega

/-- A series that only advances comes to an end. -/
theorem length_le_of_isChain (h : l.IsChain Advances) : l.length ≤ 5 := by
  have hroom : ∀ (l : List BrokerStatus) (s : BrokerStatus), (s :: l).IsChain Advances →
      s.height + l.length ≤ 4 := by
    intro l
    induction l with
    | nil => exact fun s _ => s.height_le
    | cons t l ih =>
        intro s h
        rw [List.isChain_cons_cons] at h
        have hlater := ih t h.2
        rw [h.1.height] at hlater
        rw [List.length_cons]
        omega
  cases l with
  | nil => exact Nat.zero_le _
  | cons s l =>
      have := hroom l s h
      rw [List.length_cons]
      omega

/-- A flag that never comes back to `c` leaves it at most once. -/
theorem exists_replicate_of_flag {flag : BrokerStatus → Bool} {c : Bool}
    (h : l.IsChain fun s t => flag t = c → flag s = c) :
    ∃ n m, l.map flag = List.replicate n c ++ List.replicate m (!c) := by
  induction l with
  | nil => exact ⟨0, 0, rfl⟩
  | cons s l ih =>
      obtain ⟨n, m, hrest⟩ := ih h.tail
      by_cases hs : flag s = c
      · exact ⟨n + 1, m, by rw [List.map_cons, hrest, hs]; rfl⟩
      · -- Then no later status has the flag at `c` either.
        have hn : n = 0 := by
          cases n with
          | zero => rfl
          | succ n =>
              cases l with
              | nil => cases hrest
              | cons t l =>
                  have ht : flag t = c := (List.cons.inj hrest).1
                  exact absurd ((List.isChain_cons_cons.mp h).1 ht) hs
        subst hn
        refine ⟨0, m + 1, ?_⟩
        rw [List.map_cons, hrest, Bool.eq_not_of_ne hs]
        rfl

/-- Loading ends at most once, and being connected begins at most once. -/
theorem exists_replicate_of_isChain (h : l.IsChain Advances) :
    (∃ n m, l.map (·.loading) = List.replicate n true ++ List.replicate m false) ∧
    ∃ n m, l.map (·.connected) = List.replicate n false ++ List.replicate m true := by
  constructor
  · exact exists_replicate_of_flag (c := true) (h.imp fun _ _ h => h.loading)
  · refine exists_replicate_of_flag (c := false) (h.imp fun s t h ht => ?_)
    by_contra hs
    rw [h.connected (by simpa using hs)] at ht
    cases ht

/-! ### Without a connection -/

theorem accept?_detached (g : Generation) (r : Resource) :
    (detached g).accept? ⟨r, g, .idle⟩ = some (detached g) := by
  cases r <;> simp only [accept?, generation_detached, if_true] <;> rfl

/-- That its resources are idle is no change. -/
theorem recomputed_detached {reports : List Report}
    (h : ∀ told ∈ reports, told.generation = g ∧ told.status = .idle) :
    (detached g).recomputed (reports.map .report) = List.replicate reports.length (detached g) := by
  induction reports with
  | nil => rfl
  | cons told rest ih =>
      obtain ⟨⟨hgeneration, hstatus⟩, hrest⟩ := List.forall_mem_cons.mp h
      have hsame : (detached g).accept? told = some (detached g) := by
        obtain ⟨r, g', status⟩ := told
        obtain rfl : g' = g := hgeneration
        obtain rfl : status = .idle := hstatus
        exact accept?_detached g' r
      simp [recomputed, recompute?, hsame, ih hrest, List.replicate_succ]

/-! ### The statuses of one generation -/

/-- Those of a series of statuses that are of one generation. -/
def ofGeneration (g : Generation) (log : List BrokerStatus) : List BrokerStatus :=
  log.filter (·.generation = g)

theorem ofGeneration_append (g : Generation) (first later : List BrokerStatus) :
    ofGeneration g (first ++ later) = ofGeneration g first ++ ofGeneration g later :=
  List.filter_append _ _

theorem ofGeneration_of_forall (h : ∀ st ∈ l, st.generation = g) : ofGeneration g l = l :=
  List.filter_eq_self.mpr fun st hst => decide_eq_true (h st hst)

theorem ofGeneration_eq_nil (h : ∀ st ∈ l, st.generation ≠ g) : ofGeneration g l = [] :=
  List.filter_eq_nil_iff.mpr fun st hst => by simpa using h st hst

/-- What is of other generations does not add to this one. -/
theorem ofGeneration_append_left {later : List BrokerStatus}
    (h : ∀ st ∈ later, st.generation ≠ g) : ofGeneration g (l ++ later) = ofGeneration g l := by
  rw [ofGeneration_append, ofGeneration_eq_nil h, List.append_nil]

/-- All that was computed in one generation: it is begun, and then it goes forward if there is a
connection, and stays as it is if there is none. -/
structure Segment (g : Generation) (attached : Bool) (l : List BrokerStatus) : Prop where
  head : l.head? = some (.begin g attached)
  climbs : attached = true → l.IsChain Advances
  idle : attached = false → l.length ≤ 1 + Resource.all.length ∧ ∀ st ∈ l, st = .detached g

theorem Segment.begin (g : Generation) (attached : Bool) :
    Segment g attached [.begin g attached] where
  head := rfl
  climbs _ := List.isChain_singleton _
  idle h := by
    subst h
    exact ⟨Nat.le_add_right 1 _, fun st hst => List.mem_singleton.mp hst⟩

/-- More of the generation goes behind if it goes forward from the last status or, without a
connection, stays in bounds and says nothing new. -/
theorem Segment.append {attached : Bool} {news : List BrokerStatus} (h : Segment g attached l)
    (hlast : l.getLast? = some s) (hclimbs : attached = true → (s :: news).IsChain Advances)
    (hidle : attached = false →
      (l ++ news).length ≤ 1 + Resource.all.length ∧ ∀ st ∈ news, st = .detached g) :
    Segment g attached (l ++ news) := by
  refine ⟨?_, fun hattached => ?_, fun hdetached => ⟨(hidle hdetached).1, fun st hst => ?_⟩⟩
  · rw [List.head?_append, h.head]
    rfl
  · have hchain := hclimbs hattached
    refine List.isChain_append.mpr ⟨h.climbs hattached, hchain.tail, ?_⟩
    rw [hlast]
    rintro _ ⟨⟩ next hnext
    cases news with
    | nil => cases hnext
    | cons st rest =>
        cases hnext
        exact (List.isChain_cons_cons.mp hchain).1
  · rcases List.mem_append.mp hst with hold | hnew
    · exact (h.idle hdetached).2 st hold
    · exact (hidle hdetached).2 st hnew

/-- What a generation was begun with tells whether there is a connection. -/
theorem Segment.attached_eq {attached attached' : Bool} {l' : List BrokerStatus}
    (h : Segment g attached l) (h' : Segment g attached' l') (hmore : l <+: l') :
    attached = attached' := by
  obtain ⟨more, rfl⟩ := hmore
  have hhead : some (BrokerStatus.begin g attached) = some (BrokerStatus.begin g attached') := by
    rw [← h'.head, List.head?_append, h.head]
    rfl
  exact congrArg BrokerStatus.loading (Option.some.inj hhead)

end BrokerStatus

namespace Reporter

variable {r : Reporter} {said : List StreamStatus}

/-- Of what is said each that is news is one step above the one before. -/
def Climbs (r : Reporter) : List StreamStatus → Prop
  | [] => True
  | s :: rest =>
    (r.isNews s = true → (r.last.getD .idle).next? = some s) ∧ (r.report s).1.Climbs rest

/-- Once the stream is opened, all that can be said is that it streams. -/
theorem Opened.climbs (h : r.Opened) (hs : ∀ s ∈ said, s = .streaming) : r.Climbs said := by
  induction said generalizing r with
  | nil => trivial
  | cons s rest ih =>
      obtain ⟨rfl, hrest⟩ := List.forall_mem_cons.mp hs
      refine ⟨fun hnews => ?_, ih (h.report .streaming) hrest⟩
      rcases h with hlast | hlast
      · rw [hlast]
        rfl
      · rw [isNews, hlast] at hnews
        cases hnews

/-- Without a connection only the first report says something new. -/
theorem length_reportAll_idle (r : Reporter) (h : ∀ s ∈ said, s = .idle) :
    (r.reportAll said).2.length + r.last.isSome.toNat =
      (r.reportAll said).1.last.isSome.toNat := by
  induction said generalizing r with
  | nil => exact Nat.zero_add _
  | cons s rest ih =>
      obtain ⟨rfl, hrest⟩ := List.forall_mem_cons.mp h
      have hfirst : (r.report .idle).2.toList.length + r.last.isSome.toNat =
          (r.report .idle).1.last.isSome.toNat := by
        obtain ⟨resource, generation, _ | last⟩ := r
        · rfl
        · cases last <;> rfl
      rw [reportAll_cons, List.length_append, ← ih (r.report .idle).1 hrest, ← hfirst]
      omega

end Reporter

namespace StatusBoard

/-- What a board computes while a reporter climbs is a series that advances. -/
theorem Shows.isChain {b : StatusBoard} {rep : Reporter} (h : b.Shows rep true)
    {said : List StreamStatus} (hclimbs : rep.Climbs said) :
    (b.current :: b.current.recomputed ((rep.reportAll said).2.map .report)).IsChain
      BrokerStatus.Advances := by
  induction said generalizing b rep with
  | nil => exact List.isChain_singleton _
  | cons s rest ih =>
      obtain ⟨hfirst, hrest⟩ := hclimbs
      have hnext := h.report (s := s) nofun
      rw [Reporter.reportAll_cons]
      cases hrep : (rep.report s).2 with
      | none =>
          rw [Reporter.report_eq_none hrep] at hrest ⊢
          exact ih h hrest
      | some told =>
          obtain ⟨hnews, htold, -⟩ := Reporter.report_eq_some hrep
          have htaken := (b.current.accept?_isSome_iff told).mpr (by rw [htold, h.generation])
          obtain ⟨st, hst⟩ := Option.isSome_iff_exists.mp htaken
          have hadvances : b.current.Advances st := by
            subst htold
            exact BrokerStatus.advances_of_accept? hst h.shown (hfirst hnews)
          have hboard : b.reportAll [told] = b.publish st := by
            simp [StatusBoard.reportAll, StatusBoard.report, hst]
          rw [hrep, Option.toList_some, hboard] at hnext
          simp only [Option.toList_some, List.cons_append, List.nil_append, List.map_cons,
            BrokerStatus.recomputed, BrokerStatus.recompute?, hst, Option.getD_some]
          exact .cons_cons hadvances (ih hnext hrest)

end StatusBoard

end BrokerMonitor
