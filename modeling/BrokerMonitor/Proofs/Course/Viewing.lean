import BrokerMonitor.Proofs.Course.StatusReport
import BrokerMonitor.Proofs.Output.LineLog
/-!
# What a watch has told

A watch subscribes to the listings and reads the status, and from then on the monitor moves and the
watch takes up its news, in any order (`Viewing`). Whenever nothing is ready, the watch has told the
current status, and of each listing the current one, if that was announced after the subscription
(`watch_tells_what_is_announced`).

A listing that was there before the subscription is not told, as it is no change. The status has no
such gap, as the watch tells it at the start.
-/

namespace BrokerMonitor

namespace Update

/-- The status that an update tells. -/
def status? : Update → Option BrokerStatus
  | .status s => some s
  | .listing .. => none

/-- The listing of `r` that an update tells. -/
def listing? (r : Resource) : Update → Option (List r.Record)
  | .status _ => none
  | .listing q records => if h : q = r then some (h ▸ records) else none

@[simp] theorem listing?_self (r : Resource) (records : List r.Record) :
    (Update.listing r records).listing? r = some records := dif_pos rfl

theorem listing?_of_ne {q r : Resource} (h : q ≠ r) (records : List q.Record) :
    (Update.listing q records).listing? r = none := dif_neg h

/-- The last status among some updates. -/
def lastStatus? (told : List Update) : Option BrokerStatus := (told.filterMap status?).getLast?

/-- The last listing of `r` among some updates. -/
def lastListing? (r : Resource) (told : List Update) : Option (List r.Record) :=
  (told.filterMap (listing? r)).getLast?

theorem lastStatus?_concat (told : List Update) (u : Update) :
    lastStatus? (told ++ [u]) = u.status?.or (lastStatus? told) := by
  rw [lastStatus?, List.filterMap_append, List.getLast?_append]
  cases u <;> rfl

theorem lastListing?_concat (r : Resource) (told : List Update) (u : Update) :
    lastListing? r (told ++ [u]) = (u.listing? r).or (lastListing? r told) := by
  rw [lastListing?, List.filterMap_append, List.getLast?_append]
  cases h : u.listing? r with
  | none => rw [List.filterMap_cons_none h]; rfl
  | some records => rw [List.filterMap_cons_some h]; rfl

end Update

open Update (lastStatus? lastListing?)

/-- A monitor, a watch of it, and what the watch has told so far. -/
structure Viewing where
  monitor : Monitor
  watch : Watch
  told : List Update

namespace Viewing

/-- The watch has subscribed to the listing of each resource in a state `since r`, and now it reads
the status. -/
def start (since : Resource → Monitor) (m : Monitor) : Viewing where
  monitor := m
  watch := ⟨m.board.status.subscribe, .build fun r => ((since r).store.get r).subscribe⟩
  told := [.status m.status]

/-- The watch takes up a source. -/
def takeUp (v : Viewing) (source : Source) : Viewing where
  monitor := v.monitor
  watch := (v.watch.handle v.monitor source).1
  told := v.told ++ (v.watch.handle v.monitor source).2.toList

def takeUpAll (v : Viewing) (sources : List Source) : Viewing := sources.foldl takeUp v

/-- The monitor moves, or the watch takes up a source. -/
inductive Step : Viewing → Viewing → Prop
  | monitor {v : Viewing} {m : Monitor} (step : v.monitor.Step m) : Step v { v with monitor := m }
  | takeUp (v : Viewing) (source : Source) : Step v (v.takeUp source)

/-- Any number of steps. -/
abbrev Leads : Viewing → Viewing → Prop := Relation.ReflTransGen Step

/-- Nothing is ready. -/
def IsIdle (v : Viewing) : Prop := ∀ source, v.watch.isReady v.monitor source = false

variable {v v' : Viewing} {since : Resource → Monitor} {m : Monitor}

/-- A watch that does all of this at once starts so. -/
theorem start_eq (m : Monitor) :
    start (fun _ => m) m = ⟨m, (Watch.start m).1, [(Watch.start m).2]⟩ := rfl

theorem monitor_leads (hleads : v.Leads v') : v.monitor.Leads v'.monitor := by
  induction hleads with
  | refl => exact .refl
  | tail _ step ih =>
      cases step with
      | monitor step => exact ih.tail step
      | takeUp source => exact ih

/-! ### Taking up all sources -/

theorem takeUpAll_eq (v : Viewing) (sources : List Source) :
    v.takeUpAll sources = {
      monitor := v.monitor
      watch := (v.watch.handleAll v.monitor sources).1
      told := v.told ++ (v.watch.handleAll v.monitor sources).2 } := by
  induction sources generalizing v with
  | nil => simp [takeUpAll, Watch.handleAll]
  | cons source rest ih =>
      have hrest := ih (v.takeUp source)
      simp only [takeUpAll, List.foldl_cons] at hrest ⊢
      rw [hrest]
      simp [takeUp, Watch.handleAll]

theorem leads_monitor (v : Viewing) (hleads : v.monitor.Leads m) :
    v.Leads { v with monitor := m } := by
  induction hleads with
  | refl => exact .refl
  | tail _ step ih => exact ih.tail (.monitor step)

theorem leads_takeUpAll (v : Viewing) (sources : List Source) : v.Leads (v.takeUpAll sources) := by
  induction sources generalizing v with
  | nil => exact .refl
  | cons source rest ih => exact .head (.takeUp v source) (ih (v.takeUp source))

theorem isReady_takeUp (v : Viewing) (source other : Source) :
    (v.takeUp source).watch.isReady (v.takeUp source).monitor other =
      (other != source && v.watch.isReady v.monitor other) := Watch.isReady_handle ..

/-- A source without news gets none when others are taken up. -/
theorem isReady_takeUpAll_of_not_ready {source : Source}
    (h : v.watch.isReady v.monitor source = false) (sources : List Source) :
    (v.takeUpAll sources).watch.isReady (v.takeUpAll sources).monitor source = false := by
  induction sources generalizing v with
  | nil => exact h
  | cons first rest ih =>
      refine ih (v := v.takeUp first) ?_
      rw [isReady_takeUp, h, Bool.and_false]

/-- Nothing is ready once every source has been taken up, in whatever order. -/
theorem isIdle_takeUpAll (v : Viewing) {sources : List Source} (h : ∀ source, source ∈ sources) :
    (v.takeUpAll sources).IsIdle := by
  intro source
  obtain ⟨before, after, rfl⟩ := List.append_of_mem (h source)
  rw [takeUpAll, List.foldl_append]
  refine isReady_takeUpAll_of_not_ready ?_ after
  rw [isReady_takeUp, bne_self_eq_false, Bool.false_and]

/-! ### Taking up one source -/

theorem takeUp_of_not_ready {source : Source} (h : v.watch.isReady v.monitor source = false) :
    v.takeUp source = v := by
  simp [takeUp, Watch.handle_eq, h]

theorem takeUp_of_ready {source : Source} (h : v.watch.isReady v.monitor source = true) :
    v.takeUp source = {
      monitor := v.monitor
      watch := v.watch.see v.monitor source
      told := v.told ++ [source.update v.monitor] } := by
  simp [takeUp, Watch.handle_eq, h]

/-! ### What is told -/

/-- What a watch that knows all of a slot has told of it: what the slot holds, unless it has held
that ever since the subscription. -/
def tells (since : Resource → Monitor) (r : Resource) (slot : Slot r.Record) :
    Option (List r.Record) :=
  if slot.version = ((since r).store.get r).version then none else some slot.value.records

/-- Where a watch has seen the latest announcement, it has told it. -/
structure Informed (since : Resource → Monitor) (v : Viewing) : Prop where
  reachable : v.monitor.Reachable
  since_le : ∀ r, ((since r).store.get r).version ≤ (v.watch.listings.get r).seen
  status : Cell.Abreast (fun c => some c.value) v.monitor.board.status v.watch.status
    (lastStatus? v.told)
  listing : ∀ r, Cell.Abreast (tells since r) (v.monitor.store.get r) (v.watch.listings.get r)
    (lastListing? r v.told)

namespace Informed

theorem start (hsince : ∀ r, (since r).Leads m) (hm : m.Reachable) :
    (start since m).Informed since where
  reachable := hm
  since_le r := by
    simp only [Viewing.start, EachResource.get_build]
    exact Nat.le_refl _
  status := .subscribe _ _
  listing r := by
    have hnone : lastListing? r (Viewing.start since m).told =
        tells since r ((since r).store.get r) := by
      rw [tells, if_pos rfl]
      rfl
    simp only [Viewing.start, EachResource.get_build] at hnone ⊢
    rw [hnone]
    refine (Cell.Abreast.subscribe (tells since r) _).move
      (Monitor.version_slot_le (hsince r) r) fun hsame => ?_
    rw [Monitor.slot_of_version_eq (hsince r) hsame]

theorem monitor (h : v.Informed since) (step : v.monitor.Step m) :
    Informed since { v with monitor := m } where
  reachable := h.reachable.step step
  since_le := h.since_le
  status := by
    have hleads : v.monitor.Leads m := .single step
    refine h.status.move (Monitor.version_status_le h.reachable hleads) fun hsame => ?_
    exact congrArg some (Monitor.status_of_version_eq h.reachable hleads hsame)
  listing r := by
    have hleads : v.monitor.Leads m := .single step
    refine (h.listing r).move (Monitor.version_slot_le hleads r) fun hsame => ?_
    rw [Monitor.slot_of_version_eq hleads hsame]

theorem takeUp (h : v.Informed since) (source : Source) : (v.takeUp source).Informed since := by
  cases hready : v.watch.isReady v.monitor source with
  | false => rwa [takeUp_of_not_ready hready]
  | true =>
      cases source with
      | status =>
          simp only [takeUp_of_ready hready, Watch.see, Source.update]
          refine ⟨h.reachable, h.since_le, ?_, fun r => ?_⟩
          · rw [Update.lastStatus?_concat]
            exact .subscribe _ _
          · rw [Update.lastListing?_concat]
            exact h.listing r
      | listing q =>
          -- What was announced last is no longer what was there at the subscription.
          have hlater : ((since q).store.get q).version < (v.monitor.store.get q).version := by
            have hne : (v.watch.listings.get q).seen ≠ (v.monitor.store.get q).version := by
              simpa [Watch.isReady, Cell.seenBy] using hready
            have hsince := h.since_le q
            have hle := (h.listing q).seen_le
            omega
          simp only [takeUp_of_ready hready, Watch.see, Source.update]
          refine ⟨h.reachable, fun r => ?_, ?_, fun r => ?_⟩
          · by_cases hr : r = q
            · subst hr
              rw [EachResource.get_set_self]
              exact Nat.le_of_lt hlater
            · rw [EachResource.get_set_of_ne _ _ hr]
              exact h.since_le r
          · rw [Update.lastStatus?_concat]
            exact h.status
          · rw [Update.lastListing?_concat]
            by_cases hr : r = q
            · subst hr
              rw [EachResource.get_set_self, Update.listing?_self, Option.some_or]
              have htells : tells since r (v.monitor.store.get r) =
                  some (v.monitor.snapshot r).records := if_neg (Nat.ne_of_gt hlater)
              rw [← htells]
              exact .subscribe _ _
            · rw [EachResource.get_set_of_ne _ _ hr, Update.listing?_of_ne (Ne.symm hr),
                Option.none_or]
              exact h.listing r

theorem leads (h : v.Informed since) (hleads : v.Leads v') : v'.Informed since := by
  induction hleads with
  | refl => exact h
  | tail _ step ih =>
      cases step with
      | monitor step => exact ih.monitor step
      | takeUp source => exact ih.takeUp source

/-- A watch that has nothing to take up has told everything. -/
theorem of_isIdle (h : v.Informed since) (hidle : v.IsIdle) :
    lastStatus? v.told = some v.monitor.status ∧
      ∀ r, lastListing? r v.told = tells since r (v.monitor.store.get r) := by
  refine ⟨h.status.known_eq ?_, fun r => (h.listing r).known_eq ?_⟩
  · simpa [Watch.isReady] using hidle .status
  · simpa [Watch.isReady] using hidle (.listing r)

end Informed

/-- Whenever nothing is ready, the current status was told, and each listing that was announced
since the subscription. -/
theorem told_of_isIdle (hm : m.Reachable) (hsince : ∀ r, (since r).Leads m)
    (hleads : (start since m).Leads v) (hidle : v.IsIdle) :
    lastStatus? v.told = some v.monitor.status ∧
      ∀ r, lastListing? r v.told =
          (if (v.monitor.store.get r).version = ((since r).store.get r).version then none
            else some (v.monitor.snapshot r).records) ∧
        ∀ g, ((since r).snapshot r).isListingOf g = false →
          (v.monitor.snapshot r).isListingOf g = true →
          lastListing? r v.told = some (v.monitor.snapshot r).records := by
  have hinformed := (Informed.start hsince hm).leads hleads
  obtain ⟨hstatus, hlisting⟩ := hinformed.of_isIdle hidle
  refine ⟨hstatus, fun r => ⟨hlisting r, fun g hbefore hnow => ?_⟩⟩
  refine (hlisting r).trans (if_neg fun hsame => ?_)
  -- The same version would show the same listing.
  have hslot := Monitor.slot_of_version_eq ((hsince r).trans (monitor_leads hleads)) hsame
  have hsnapshot : v.monitor.snapshot r = (since r).snapshot r := congrArg Cell.value hslot
  rw [hsnapshot, hbefore] at hnow
  cases hnow

/-! ### Along a course -/

/-- The watch takes up all news of each of some states. -/
def attend (v : Viewing) (states : List (Timed Monitor)) : Viewing :=
  states.foldl (fun v state => takeUpAll { v with monitor := state.value } Source.all) v

theorem told_attend (v : Viewing) (states : List (Timed Monitor)) :
    (v.attend states).told = v.told ++ (v.watch.follow states).map (·.value) := by
  induction states generalizing v with
  | nil => simp [attend, Watch.follow]
  | cons state rest ih =>
      have hrest := ih (takeUpAll { v with monitor := state.value } Source.all)
      rw [attend, List.foldl_cons, ← attend, hrest, takeUpAll_eq]
      simp [Watch.follow, Function.comp_def]

theorem leads_attend (v : Viewing) {states : List (Timed Monitor)}
    (hfirst : ∀ state ∈ states, v.monitor.Leads state.value)
    (hordered : states.Pairwise fun earlier later => earlier.value.Leads later.value) :
    v.Leads (v.attend states) := by
  induction states generalizing v with
  | nil => exact .refl
  | cons state rest ih =>
      obtain ⟨hstate, hrest⟩ := List.pairwise_cons.mp hordered
      have hnow : v.Leads (takeUpAll { v with monitor := state.value } Source.all) :=
        (v.leads_monitor (hfirst state List.mem_cons_self)).trans (leads_takeUpAll _ _)
      refine hnow.trans (ih _ ?_ hrest)
      rw [takeUpAll_eq]
      exact hstate

/-- After the last state nothing is ready. -/
theorem isIdle_attend (v : Viewing) {states : List (Timed Monitor)} (hne : states ≠ []) :
    (v.attend states).IsIdle ∧ (v.attend states).monitor = (states.getLast hne).value := by
  have hlast : v.attend states =
      takeUpAll { v.attend states.dropLast with monitor := (states.getLast hne).value }
        Source.all := by
    conv_lhs => rw [← List.dropLast_append_getLast hne]
    exact List.foldl_concat ..
  rw [hlast]
  refine ⟨isIdle_takeUpAll _ Source.mem_all, ?_⟩
  rw [takeUpAll_eq]

/-- A watch that starts with a course and goes along it tells what the program's watch does. -/
theorem exists_along {c : Course} {h : Handle} (hc : c.Carries h) :
    ∃ v, (start (fun _ => c.start) c.start).Leads v ∧ v.IsIdle ∧ v.monitor = c.last ∧
      v.told =
        .status c.start.status :: ((Watch.start c.start).1.follow c.states).map (·.value) := by
  obtain ⟨hidle, hlast⟩ := isIdle_attend (start (fun _ => c.start) c.start) c.states_ne_nil
  refine ⟨_, leads_attend _ ?_ hc.leads, hidle, hlast.trans c.value_getLast_states, ?_⟩
  · intro state hstate
    obtain rfl | hlater := List.mem_cons.mp hstate
    · exact .refl
    · exact (List.pairwise_cons.mp hc.leads).1 state hlater
  · rw [told_attend, start_eq]
    rfl

end Viewing

namespace CommandContext

open Viewing

/-- So the updates of the program's watch are those of a watch that has nothing left to take up. -/
theorem exists_viewing {c : Course} {h : Handle} (hc : c.Carries h) (p : CommandContext)
    (interrupt : Option Nat) :
    ∃ v, (start (fun _ => c.start) c.start).Leads v ∧ v.IsIdle ∧
      v.monitor = (p.watch interrupt c).monitor ∧
      v.told = (updates interrupt c).map (·.value) := by
  cases interrupt with
  | none => exact exists_along hc
  | some time => exact exists_along (hc.before time)

/-- What a watch has told. Its subscriptions to the listings and its look at the status may be at
different moments after the connect, and the tasks of the monitor may run before them, between them
and after them. Take any such start, and whatever the monitor does from then on, while the watch
takes up its news in any order.

Whenever nothing is ready, the last status told is the current one. The listing of a resource is
told if something was announced since the subscription, and no longer: then the last one told is the
current one, and otherwise none was told. So it is told if the first listing of a generation came
after the subscription. If the watch takes up every source, in whatever order, nothing is ready.

In a course the watch starts before any task has run, and finds no listing of the connection. So
what it prints up to the end, or to the interrupt, always has the latest of all listings that have
arrived. -/
theorem watch_tells_what_is_announced {since : Resource → Monitor} {m : Monitor} {v : Viewing}
    (hm : m.Reachable) (hsince : ∀ r, (since r).Leads m) (hleads : (start since m).Leads v) :
    (v.IsIdle → lastStatus? v.told = some v.monitor.status ∧
      ∀ r, lastListing? r v.told =
          (if (v.monitor.store.get r).version = ((since r).store.get r).version then none
            else some (v.monitor.snapshot r).records) ∧
        ∀ g, ((since r).snapshot r).isListingOf g = false →
          (v.monitor.snapshot r).isListingOf g = true →
          lastListing? r v.told = some (v.monitor.snapshot r).records) ∧
    (∀ sources : List Source, (∀ source, source ∈ sources) →
      (start since m).Leads (v.takeUpAll sources) ∧
      (v.takeUpAll sources).monitor = v.monitor ∧ (v.takeUpAll sources).IsIdle) ∧
    ∀ (p : CommandContext) (interrupt : Option Nat) (s : Scenario) (rate : Option UInt32)
      (e : Endpoint),
      let c := s.course rate e
      let final := (p.watch interrupt c).monitor
      let told := (updates interrupt c).map (·.value)
      (p.watch interrupt c).printed = p.log (updates interrupt c) ∧
      lastStatus? told = some final.status ∧
      ∀ r, (final.snapshot r).isListingOf (Scenario.firstHandle e).generation = true →
        lastListing? r told = some (final.snapshot r).records := by
  refine ⟨fun hidle => told_of_isIdle hm hsince hleads hidle, ?_, ?_⟩
  · intro sources h
    refine ⟨hleads.trans (leads_takeUpAll v sources), ?_, isIdle_takeUpAll v h⟩
    rw [takeUpAll_eq]
  · intro p interrupt s rate e c final told
    have hc : c.Carries (Scenario.firstHandle e) := s.carries_course rate e
    have hstart := (hc.states _ List.mem_cons_self).reachable
    obtain ⟨v, hleads, hready, hmonitor, htold⟩ := exists_viewing hc p interrupt
    obtain ⟨hstatus, hlisting⟩ := told_of_isIdle hstart (fun _ => .refl) hleads hready
    rw [htold, hmonitor] at hstatus
    refine ⟨p.printed_watch interrupt c, hstatus, fun r hr => ?_⟩
    have hnone : (c.start.snapshot r).isListingOf (Scenario.firstHandle e).generation = false := by
      rw [s.snapshot_start rate e]
      exact Snapshot.isListingOf_empty ..
    have hlast := (hlisting r).2 _ hnone
    rw [htold, hmonitor] at hlast
    exact hlast hr

/-- A listing that comes after the connect, at which the watch has started. -/
theorem watch_tells_a_listing_that_follows :
    let connected := (Session.start none).actAll [
      .broker (.offer "feed" "[::1]" .channels), .connection (.connect "a" "http://[::1]")]
    let later := connected.actAll [.broker (.send "feed" .channels [{ topic := "x" }]), .settle]
    let v := takeUpAll
      { start (fun _ => connected.monitor) connected.monitor with monitor := later.monitor }
      Source.all
    lastStatus? v.told = some later.monitor.status ∧
      lastListing? .channels v.told = some [⟨"x", [], [], 0⟩] := by
  intro connected later v
  have hm : connected.monitor.Reachable :=
    ⟨none, Session.monitor_leads ((Session.start none).leads_actAll _)⟩
  have hlater : connected.monitor.Leads later.monitor :=
    Session.monitor_leads (connected.leads_actAll _)
  have hbefore : (connected.monitor.snapshot .channels).isListingOf ⟨1⟩ = false := by
    decide +kernel
  have hnow : (later.monitor.snapshot .channels).isListingOf ⟨1⟩ = true := by decide +kernel
  have hrecords : (later.monitor.snapshot .channels).records = [⟨"x", [], [], 0⟩] := by
    decide +kernel
  clear_value connected later
  have hleads : (start (fun _ => connected.monitor) connected.monitor).Leads v :=
    (leads_monitor _ hlater).trans (leads_takeUpAll _ _)
  have hmonitor : v.monitor = later.monitor := congrArg Viewing.monitor (takeUpAll_eq _ _)
  obtain ⟨hstatus, hlisting⟩ := (watch_tells_what_is_announced hm (fun _ => .refl) hleads).1
    (isIdle_takeUpAll _ Source.mem_all)
  have hchannels := (hlisting .channels).2 ⟨1⟩ hbefore
  rw [hmonitor] at hstatus hchannels
  exact ⟨hstatus, (hchannels hnow).trans (congrArg some hrecords)⟩

/-- A listing that is there before the watch starts is not told, though nothing is ready: the watch
has subscribed to what comes after it. -/
theorem watch_does_not_tell_an_earlier_listing :
    ¬ ∀ (m : Monitor) (v : Viewing), m.Reachable → m.alive = true → m.handle.isSome = true →
      (start (fun _ => m) m).Leads v → v.IsIdle →
      ∀ r, (v.monitor.snapshot r).isListingOf v.monitor.generation = true →
        lastListing? r v.told = some (v.monitor.snapshot r).records := by
  intro h
  let s := (Session.start none).actAll [
    .broker (.offer "feed" "[::1]" .channels), .broker (.send "feed" .channels [{ topic := "x" }]),
    .connection (.connect "a" "http://[::1]"), .settle]
  let v := start (fun _ => s.monitor) s.monitor
  have hm : s.monitor.Reachable :=
    ⟨none, Session.monitor_leads ((Session.start none).leads_actAll _)⟩
  have hconnected : s.monitor.alive = true ∧ s.monitor.handle.isSome = true := by decide +kernel
  have hlisting : (s.monitor.snapshot .channels).isListingOf s.monitor.generation = true := by
    decide +kernel
  have hidle : v.IsIdle := by
    intro source
    cases source <;> simp [v, start, Watch.isReady]
  have htold := h s.monitor v hm hconnected.1 hconnected.2 .refl hidle .channels hlisting
  cases htold

end CommandContext

end BrokerMonitor
