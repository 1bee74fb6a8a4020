import BrokerMonitor.Proofs.Course.FirstListing
/-!
# Which message a command prints

The commands that print a listing search a slot that holds the latest message only, and the stream
of the connection may have taken any number of messages when the search looks. So the listing that
is printed is the conversion of the last message that was taken by the look that found it. This is
the first message of the stream where the search looks before the second one is taken, and a later
message where several are taken at once (`list_prints_the_last_message_taken`).
-/

namespace BrokerMonitor

variable {r : Resource} {g : Generation}

/-- The slot of a connection whose stream has taken some messages. -/
def Slot.opened (slot : Slot r.Record) (g : Generation) (past : List r.Message) :
    Slot r.Record :=
  (slot.reset g).deliver g past

theorem Slot.value_opened (slot : Slot r.Record) (g : Generation) (past : List r.Message) :
    (slot.opened g past).value = .after g past := by
  have hreset : (slot.reset g).value = Snapshot.after g ([] : List r.Message) := rfl
  exact Slot.value_deliver hreset past

/-! ### A search beside a stream -/

/-- What happens while a search goes on: the stream takes a message, or the search has a turn. -/
inductive Beat (r : Resource) where
  | message (m : r.Message)
  | turn

namespace Beat

def message? : Beat r → Option r.Message
  | .message m => some m
  | .turn => none

/-- The messages that are taken. -/
def taken (beats : List (Beat r)) : List r.Message := beats.filterMap message?

/-- A beat as a move of a search. -/
def move (g : Generation) : Beat r → Pursuit.Move r.Record
  | .message m => .event (.write (.replace g (r.listing m)))
  | .turn => .turn

@[simp] theorem taken_append (first later : List (Beat r)) :
    taken (first ++ later) = taken first ++ taken later := List.filterMap_append

end Beat

open Beat (taken)

namespace Pursuit

variable {q : Pursuit r.Record} {past : List r.Message}

/-- Goes on with the search for a listing of generation `g`. -/
def along (g : Generation) (q : Pursuit r.Record) (beats : List (Beat r)) : Pursuit r.Record :=
  q.actAll g (beats.map (Beat.move g))

theorem along_append (g : Generation) (q : Pursuit r.Record) (first later : List (Beat r)) :
    q.along g (first ++ later) = (q.along g first).along g later := by
  rw [along, List.map_append]
  exact List.foldl_append

/-- The slot holds the last message that was taken. -/
theorem value_along (hgone : q.site.gone = false) (hslot : q.site.slot.value = .after g past)
    (beats : List (Beat r)) :
    (q.along g beats).site.slot.value = .after g (past ++ taken beats) := by
  have hwritten : Publication.written (events (beats.map (Beat.move g))) =
      (taken beats).map fun m => .replace g (r.listing m) := by
    induction beats with
    | nil => rfl
    | cons beat rest ih =>
        cases beat with
        | message m => exact congrArg (List.cons (.replace g (r.listing m))) ih
        | turn => exact ih
  rw [along, site_actAll, Publication.slot_actAll hgone, hwritten, ← Slot.deliver_eq_writeAll]
  exact Slot.value_deliver hslot _

/-- A search that finds something finds the last message that was taken by its last look. -/
theorem exists_of_found (hgone : q.site.gone = false)
    (hslot : q.site.slot.value = .after g past) (hnone : q.search.found? = none)
    {beats : List (Beat r)} {s : Snapshot r.Record}
    (hfound : (q.along g beats).search.found? = some s) :
    ∃ before later seen last, beats = before ++ .turn :: later ∧
      (q.along g before).search.found? = none ∧ past ++ taken before = seen ++ [last] ∧
      s = ⟨g, r.listing last, seen.length + 1⟩ := by
  induction beats using List.reverseRecOn with
  | nil => exact absurd (hnone.symm.trans hfound) nofun
  | append_singleton beats beat ih =>
      have hlast : (q.along g (beats ++ [beat])).search.found? =
          (q.along g beats).search.found?.or
            (((q.along g beats).sight? (beat.move g)).toList.find? (·.isListingOf g)) := by
        rw [along_append]
        exact found?_act ..
      rw [hlast] at hfound
      cases hbefore : (q.along g beats).search.found? with
      | some s' =>
          rw [hbefore, Option.some_or] at hfound
          obtain ⟨before, later, seen, last, rfl, hrest⟩ := ih (hbefore.trans hfound)
          exact ⟨before, later ++ [beat], seen, last, by simp, hrest⟩
      | none =>
          rw [hbefore, Option.none_or] at hfound
          have hsight := List.mem_of_find?_eq_some hfound
          have hlisting : s.isListingOf g = true :=
            List.find?_some (p := fun s : Snapshot r.Record => s.isListingOf g) hfound
          rw [Option.mem_toList] at hsight
          cases beat with
          | message m => cases hsight
          | turn =>
              -- It is the look at the slot that finds the listing.
              have hvalue : s = .after g (past ++ taken beats) := by
                simp only [Beat.move, sight?] at hsight
                split at hsight
                · exact (Option.some.inj hsight).symm.trans (value_along hgone hslot beats)
                · cases hsight
              have hsome : past ++ taken beats ≠ [] := by
                rw [hvalue] at hlisting
                exact (Snapshot.isListingOf_after g _).mp hlisting
              obtain ⟨seen, last, hseen⟩ := List.eq_nil_or_concat' _ |>.resolve_left hsome
              refine ⟨beats, [], seen, last, rfl, hbefore, hseen, ?_⟩
              rw [hvalue, hseen, Snapshot.after_concat]

/-- Before the first message there is nothing to find. -/
theorem found?_eq_none (hgone : q.site.gone = false) (hslot : q.site.slot.value = .after g past)
    (hnone : q.search.found? = none) {beats : List (Beat r)} (hnothing : past ++ taken beats = []) :
    (q.along g beats).search.found? = none := by
  refine Option.eq_none_iff_forall_ne_some.mpr fun s hs => ?_
  obtain ⟨before, later, seen, last, rfl, -, hseen, -⟩ := exists_of_found hgone hslot hnone hs
  rw [Beat.taken_append, ← List.append_assoc, hseen] at hnothing
  simp at hnothing

/-- Two turns are enough to find something once a message has been taken. -/
theorem found_of_turns (halert : q.Alert g) (hgone : q.site.gone = false)
    (hslot : q.site.slot.value = .after g past) {beats : List (Beat r)}
    (hsome : past ++ taken beats ≠ []) :
    (q.along g (beats ++ [.turn, .turn])).search.found? =
      (q.along g beats).search.found?.or (some (.after g (past ++ taken beats))) := by
  have hvalue := value_along hgone hslot beats
  have hlisting : (q.along g beats).site.slot.value.isListingOf g = true := by
    rw [hvalue]
    exact (Snapshot.isListingOf_after g _).mpr hsome
  rw [along_append, ← hvalue]
  exact found_of_alert (halert.actAll _) hlisting

/-- A search that has found something has found it for good. -/
theorem found?_along_of_found {s : Snapshot r.Record} (h : q.search.found? = some s)
    (beats : List (Beat r)) : (q.along g beats).search.found? = some s := by
  rw [along, found?_actAll, h, Option.some_or]

/-- The first message is found by a search that has two turns before the second one is taken. -/
theorem found_first (halert : q.Alert g) (hgone : q.site.gone = false)
    (hslot : q.site.slot.value = .after g past) (hnone : q.search.found? = none)
    {before : List (Beat r)} (hfirst : past ++ taken before = []) (m : r.Message)
    (later : List (Beat r)) :
    (q.along g (before ++ .message m :: .turn :: .turn :: later)).search.found? =
      some ⟨g, r.listing m, 1⟩ := by
  have hnothing : (q.along g (before ++ [.message m])).search.found? = none := by
    rw [along_append]
    exact found?_eq_none hgone hslot hnone hfirst
  have hmessage : past ++ taken (before ++ [.message m]) = [m] := by
    rw [Beat.taken_append, ← List.append_assoc, hfirst]
    rfl
  have hsome : past ++ taken (before ++ [.message m]) ≠ [] := hmessage ▸ List.cons_ne_nil m []
  have hturns := found_of_turns halert hgone hslot hsome
  rw [hnothing, hmessage, Option.none_or] at hturns
  have hsplit : before ++ .message m :: .turn :: .turn :: later =
      (before ++ [.message m] ++ [.turn, .turn]) ++ later := by simp
  rw [hsplit, along_append]
  exact found?_along_of_found (hturns.trans rfl) later

end Pursuit

namespace CommandLine.Options

/-- Which message a command prints that prints a listing. Take any slot that a connection has
opened, with any messages that its stream had taken when the command subscribed. From then on the
stream takes messages and the search makes its turns, in any order.

What the search finds is the conversion of one message: the last one that was taken by the look that
found it. So it is the first message of the stream if no other one was taken by that look, as it is
if the search has two turns between the first and the second, and no longer. Once a message has been
taken, two turns are enough to find one.

In a run of the program the messages that come at one time are taken before the command looks. It
prints the last of those that come at the time of the first. -/
theorem list_prints_the_last_message_taken (g : Generation) (slot : Slot r.Record)
    (past : List r.Message) (beats : List (Beat r)) :
    let start := Pursuit.start { slot := slot.opened g past }
    (∀ s, (start.along g beats).search.found? = some s →
      ∃ before later seen last, beats = before ++ .turn :: later ∧
        (start.along g before).search.found? = none ∧ past ++ taken before = seen ++ [last] ∧
        s = ⟨g, r.listing last, seen.length + 1⟩) ∧
    (past ++ taken beats ≠ [] →
      (start.along g (beats ++ [.turn, .turn])).search.found?.isSome = true) ∧
    (past ++ taken beats = [] → ∀ m later,
      (start.along g (beats ++ .message m :: .turn :: .turn :: later)).search.found? =
        some ⟨g, r.listing m, 1⟩) ∧
    ∀ (o : Options) (s : Surroundings) (settings : Resolved) (e : Endpoint) (q : Resource)
      (first : Nat), o.command.listed? = some q → Endpoint.parse settings.url = .ok e →
      s.broker.refusal? e = none →
      let events := (s.broker.events (settings.adapterHz.getD 0)).get q
      StreamEvent.firstMessage? events = some first → first < o.patience →
      ∃ (seen : List q.Message) (last : q.Message),
        StreamEvent.messages (Timed.upTo first events) = seen ++ [last] ∧
        (o.runResolved settings s).printed = (o.context s settings e).print
          ⟨first, Output.renderListing settings.output q (q.listing last)⟩ := by
  intro start
  have halert : start.Alert g := .start g _
  have hslot : start.site.slot.value = .after g past := slot.value_opened g past
  refine ⟨fun s => Pursuit.exists_of_found rfl hslot rfl, fun hsome => ?_, ?_, ?_⟩
  · rw [Pursuit.found_of_turns halert rfl hslot hsome]
    cases (start.along g beats).search.found? <;> rfl
  · exact fun hnothing m later => Pursuit.found_first halert rfl hslot rfl hnothing m later
  · intro o s settings e q first hlisted hparse hrefusal events hfirst hlt
    obtain ⟨seen, last, m, hmessages, hrun⟩ :=
      exists_ending_of_listed hlisted hparse hrefusal hfirst hlt
    exact ⟨seen, last, hmessages, congrArg Run.printed hrun⟩

/-- The messages come one at a time, so the first one is printed. -/
theorem list_prints_the_only_message_taken :
    let s : Surroundings := {
      env := fun _ => none
      broker := { streams :=
        ⟨[⟨5, .item (.ok [{ topic := "x" }])⟩, ⟨9, .item (.ok [{ topic := "y" }])⟩], []⟩ } }
    let o : Options := { (default : Options) with command := .channels }
    let settings : Resolved :=
      { (default : Resolved) with url := "http://[::1]", output := .jsonCompact }
    (o.runResolved settings s).printed = [⟨5, "[\x7b\"topic\":\"x\",\"publishers\":[]," ++
      "\"subscribers\":[],\"message_count\":0\x7d]\n"⟩] := by
  intro s o settings
  obtain ⟨e, hparse⟩ : ∃ e, Endpoint.parse settings.url = .ok e :=
    Endpoint.exists_of_isOk (by decide +kernel)
  obtain ⟨-, -, -, hrun⟩ := list_prints_the_last_message_taken ⟨1⟩ .initial
    ([] : List Resource.channels.Message) []
  obtain ⟨seen, last, hmessages, hprinted⟩ :=
    hrun o s settings e .channels 5 rfl hparse rfl rfl (by decide)
  have hbatch : [[{ topic := "x" }]] = seen ++ [last] := hmessages
  obtain rfl : last = [{ topic := "x" }] := by
    simpa using (congrArg List.getLast? hbatch).symm
  have hoptions : (o.context s settings e).options = o := rfl
  rw [hprinted, CommandContext.print, hoptions]
  decide +kernel

/-- Of two messages that come at the same time the first one is not printed. -/
theorem list_need_not_print_the_first_message :
    ¬ ∀ (o : Options) (s : Surroundings) (settings : Resolved) (e : Endpoint) (r : Resource)
      (first : Nat) (m : r.Message) (rest : StreamEvents r), o.command.listed? = some r →
      Endpoint.parse settings.url = .ok e → s.broker.refusal? e = none →
      (s.broker.events (settings.adapterHz.getD 0)).get r = ⟨first, .item (.ok m)⟩ :: rest →
      first < o.patience →
      (o.runResolved settings s).printed = (o.context s settings e).print
        ⟨first, Output.renderListing settings.output r (r.listing m)⟩ := by
  intro h
  let s : Surroundings := {
    env := fun _ => none
    broker := { streams :=
      ⟨[⟨0, .item (.ok [{ topic := "x" }])⟩, ⟨0, .item (.ok [{ topic := "y" }])⟩], []⟩ } }
  let o : Options := { (default : Options) with command := .channels }
  let settings : Resolved :=
    { (default : Resolved) with url := "http://[::1]", output := .jsonCompact }
  obtain ⟨e, hparse⟩ : ∃ e, Endpoint.parse settings.url = .ok e :=
    Endpoint.exists_of_isOk (by decide +kernel)
  have hfirst :=
    h o s settings e .channels 0 [{ topic := "x" }] _ rfl hparse rfl rfl (by decide)
  obtain ⟨seen, last, m, hmessages, hrun⟩ :=
    exists_ending_of_listed (o := o) (s := s) rfl hparse rfl rfl (by decide)
  have hprinted : (o.runResolved settings s).printed = (o.context s settings e).print ⟨0, _⟩ :=
    congrArg Run.printed hrun
  have hbatch : [[{ topic := "x" }], [{ topic := "y" }]] = seen ++ [last] := hmessages
  obtain rfl : last = [{ topic := "y" }] := by
    simpa using (congrArg List.getLast? hbatch).symm
  have hoptions : (o.context s settings e).options = o := rfl
  rw [hprinted, CommandContext.print, CommandContext.print, hoptions] at hfirst
  exact absurd hfirst (by decide +kernel)

end CommandLine.Options

end BrokerMonitor
