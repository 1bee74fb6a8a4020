import BrokerMonitor.Proofs.Course.News
import BrokerMonitor.Proofs.Json.Document
/-!
# The log of a watch

As JSON, each update of a watch is a line of its own, whatever the broker's texts hold, and the line
tells all of the update: the records of a listing, or a status with its phase and the address it is
about. The form over several lines, which the other commands print, tells the same.
-/

namespace BrokerMonitor

open Json (IsRead)

/-! ### Statuses read back -/

namespace Json

/-- A member of an object, by its name. -/
def member? (j : Json) (name : String) : Option Json :=
  match j with
  | .object fields => (fields.find? (·.1 == name)).map (·.2)
  | _ => none

def text? : Json → Option String
  | .string s => some s
  | _ => none

def truth? : Json → Option Bool
  | .bool b => some b
  | _ => none

def number? : Json → Option Nat
  | .number n => some n
  | _ => none

end Json

/-- The phase of a name. -/
def Phase.ofName? (text : String) : Option Phase :=
  [.disconnected, .connecting, .connected].find? (·.name == text)

@[simp] theorem Phase.ofName?_name (p : Phase) : ofName? p.name = some p := by cases p <;> rfl

/-- The stream of a resource in an object by the names of the resources; it may be missing. -/
def StreamStatus.ofMember? (j : Json) (r : Resource) : Option StreamStatus := do
  ofName? (← (← j.member? r.name).text?)

/-- What a status line says. -/
structure StatusReport where
  url : String
  phase : Phase
  status : BrokerStatus

namespace StatusReport

/-- The report in a document, by the names of its members. -/
def ofJson? (j : Json) : Option StatusReport := do
  let url ← (← j.member? "url").text?
  let phase ← Phase.ofName? (← (← j.member? "phase").text?)
  let loading ← (← j.member? "loading").truth?
  let connected ← (← j.member? "connected").truth?
  let streams ← j.member? "per_resource"
  let generation ← (← j.member? "generation").number?
  return {
    url, phase
    status := {
      loading, connected
      streams := {
        channels := StreamStatus.ofMember? streams .channels
        adapters := StreamStatus.ofMember? streams .adapters }
      generation := ⟨UInt64.ofNat generation⟩ } }

/-- The streams of a status are found in it by their resources. -/
theorem ofMember?_streams (m : ResourceMap StreamStatus) (r : Resource) :
    StreamStatus.ofMember? (.object (m.toList.map fun (r, st) => (r.name, st.json))) r =
      m.get? r := by
  obtain ⟨channels, adapters⟩ := m
  cases r <;> cases channels <;> cases adapters <;>
    simp [StreamStatus.ofMember?, ResourceMap.toList, ResourceMap.get?, Resource.all, Json.member?,
      Resource.name, Json.text?, StreamStatus.json]

/-- A status is found whole in its document. -/
theorem ofJson?_statusJson (url : String) (s : BrokerStatus) :
    ofJson? (Output.statusJson url s) = some ⟨url, s.phase, s⟩ := by
  have hgeneration : (⟨UInt64.ofNat s.generation.toNat⟩ : Generation) = s.generation := by
    rw [Generation.toNat, UInt64.ofNat_toNat]
  simp [ofJson?, Output.statusJson, Json.member?, Json.text?, Json.truth?, Json.number?,
    Generation.json, ofMember?_streams, ResourceMap.get?, hgeneration]

end StatusReport

/-! ### Documents that are printed -/

namespace Output

theorem isRead_statusJson (levels : Nat) (url : String) (s : BrokerStatus) :
    IsRead (levels + 2) (statusJson url s) := by
  have hstream : IsRead (levels + 1)
      (.object (s.streams.toList.map fun (r, st) => (r.name, st.json))) := by
    refine .object fun f hf => ?_
    obtain ⟨⟨r, st⟩, -, rfl⟩ := List.mem_map.mp hf
    exact .string levels st.name
  refine .object fun f hf => ?_
  simp only [List.mem_cons, List.not_mem_nil, or_false] at hf
  obtain rfl | rfl | rfl | rfl | rfl | rfl := hf
  · exact .string _ url
  · exact .string _ s.phase.name
  · exact .bool _ s.loading
  · exact .bool _ s.connected
  · exact hstream
  · exact .number _ s.generation.number.toNat_lt

theorem isRead_strings (levels : Nat) (items : List String) :
    IsRead (levels + 1) (.strings items) := by
  refine .array fun j hj => ?_
  obtain ⟨s, -, rfl⟩ := List.mem_map.mp hj
  exact .string levels s

theorem isRead_recordJson (levels : Nat) (r : Resource) (record : r.Record) :
    IsRead (levels + 2) (r.recordJson record) := by
  cases r with
  | channels =>
      refine .object fun f hf => ?_
      simp only [List.mem_cons, List.not_mem_nil, or_false] at hf
      obtain rfl | rfl | rfl | rfl := hf
      · exact .string _ record.topic
      · exact isRead_strings _ record.publishers
      · exact isRead_strings _ record.subscribers
      · exact .number _ (Nat.lt_trans record.messageCount.toNat_lt (by decide))
  | adapters =>
      refine .object fun f hf => ?_
      simp only [List.mem_cons, List.not_mem_nil, or_false] at hf
      obtain rfl | rfl | rfl | rfl := hf
      · exact .string _ record.name
      · exact .bool _ record.live
      · exact .string _ record.description
      · exact isRead_strings _ record.stats

theorem isRead_listingJson (levels : Nat) (r : Resource) (records : List r.Record) :
    IsRead (levels + 3) (listingJson r records) := by
  refine .array fun j hj => ?_
  obtain ⟨record, -, rfl⟩ := List.mem_map.mp hj
  exact isRead_recordJson levels r record

/-- A printed listing gives back its records in their order, in either form. -/
theorem readAll_listing (r : Resource) (records : List r.Record) :
    Json.readAll (Json.readList r.readRecord) (String.ofList (listingJson r records).compact) =
        .ok records ∧
      Json.readAll (Json.readList r.readRecord) (String.ofList (listingJson r records).pretty) =
        .ok records := by
  have hreads : Json.Reads (Json.readList r.readRecord) (listingJson r records) records :=
    .list fun record _ => r.reads_recordJson record
  rw [← Json.layOut_oneLine 0, Json.pretty, ← Json.layOut_lines 0]
  exact ⟨hreads.readAll Json.Layout.isBlank_oneLine, hreads.readAll Json.Layout.isBlank_lines⟩

end Output

/-! ### Updates -/

namespace Update

/-- An update as a document. -/
def json (url : String) : Update → Json
  | .status s => Output.statusJson url s
  | .listing r records => Output.listingJson r records

/-- The text is the update's document and tells all of the update: the records of a listing as their
own readers read them, or the status with its phase and the address. -/
structure IsToldBy (url : String) (u : Update) (text : String) : Prop where
  document : Json.readDocument text = .ok (u.json url)
  whole : match u with
    | .status s => StatusReport.ofJson? (u.json url) = some ⟨url, s.phase, s⟩
    | .listing r records => Json.readAll (Json.readList r.readRecord) text = .ok records

theorem isRead_json (url : String) (u : Update) : IsRead Json.maxDepth (u.json url) := by
  cases u with
  | status s => exact Output.isRead_statusJson 125 url s
  | listing r records => exact Output.isRead_listingJson 124 r records

/-- Both forms tell all of an update. -/
theorem isToldBy_render (url : String) (coloured : Bool) (u : Update) :
    u.IsToldBy url (u.render .jsonCompact url coloured) ∧
      u.IsToldBy url (u.render .json url coloured) := by
  obtain ⟨hcompact, hpretty⟩ := (u.isRead_json url).readDocument
  cases u with
  | status s =>
      have hwhole := StatusReport.ofJson?_statusJson url s
      exact ⟨⟨hcompact, hwhole⟩, ⟨hpretty, hwhole⟩⟩
  | listing r records =>
      have hwhole := Output.readAll_listing r records
      exact ⟨⟨hcompact, hwhole.1⟩, ⟨hpretty, hwhole.2⟩⟩

theorem toList_render_jsonCompact (url : String) (coloured : Bool) (u : Update) :
    (u.render .jsonCompact url coloured).toList = (u.json url).compact := by
  cases u <;> exact String.toList_ofList

/-- The form in one line has no line feed. -/
theorem newline_not_mem_render (url : String) (coloured : Bool) (u : Update) :
    '\n' ∉ (u.render .jsonCompact url coloured).toList := by
  rw [toList_render_jsonCompact]
  exact Json.newline_not_mem_compact _

/-- A document has at least a character. -/
theorem isEmpty_render (url : String) (coloured : Bool) (u : Update) :
    (u.render .jsonCompact url coloured).isEmpty = false := by
  obtain ⟨c, text, htext, -⟩ := Json.exists_layOut_eq_cons .oneLine 0 (u.json url)
  have hne : u.render .jsonCompact url coloured ≠ "" := by
    intro h
    have hnil := congrArg String.toList h
    rw [toList_render_jsonCompact, ← Json.layOut_oneLine 0, htext] at hnil
    cases hnil
  simpa using hne

end Update

/-! ### The log -/

namespace CommandContext

/-- The updates of a watch, up to the interrupt. -/
def updates (interrupt : Option Nat) (c : Course) : List (Timed Update) :=
  let c := match interrupt with
    | some time => c.before time
    | none => c
  let (w, first) := Watch.start c.start
  ⟨0, first⟩ :: w.follow c.states

/-- What goes to standard output for updates. -/
def log (p : CommandContext) (updates : List (Timed Update)) : List (Timed String) :=
  updates.flatMap fun u => p.print { u with
    value := u.value.render p.resolved.output.inLog p.handle.endpoint.text p.coloured }

theorem printed_watch (p : CommandContext) (interrupt : Option Nat) (c : Course) :
    (p.watch interrupt c).printed = p.log (updates interrupt c) := rfl

/-- These are the status at the start and the news of the states before the interrupt. -/
theorem updates_eq {c : Course} (hordered : c.later.Pairwise (·.time ≤ ·.time))
    (interrupt : Option Nat) :
    updates interrupt c = ⟨0, .status c.start.status⟩ ::
      newsAlong c.start (c.later.filter fun state => interrupt.all (state.time < ·)) := by
  cases interrupt with
  | none =>
      have hall :
          c.later.filter (fun state => (none : Option Nat).all (state.time < ·)) = c.later :=
        List.filter_eq_self.mpr fun _ _ => rfl
      rw [hall, ← Watch.follow_start]
      rfl
  | some time =>
      rw [updates, Course.before_eq_inTime hordered]
      exact congrArg _ (Watch.follow_start ..)

variable {p : CommandContext}

theorem log_of_quiet (h : p.options.quiet = true) (updates : List (Timed Update)) :
    p.log updates = [] := by
  simp [log, print, Output.printed, h]

theorem inLog_of_ne_table {format : OutputFormat} (h : format ≠ .table) :
    format.inLog = .jsonCompact := by
  cases format with
  | table => exact absurd rfl h
  | json => rfl
  | jsonCompact => rfl

/-- The line of an update. -/
def line (p : CommandContext) (u : Update) : String :=
  u.render .jsonCompact p.handle.endpoint.text p.coloured

/-- Each update is printed as its line, when it comes. -/
theorem log_of_loud (hquiet : p.options.quiet = false) (hjson : p.resolved.output ≠ .table)
    (updates : List (Timed Update)) :
    p.log updates = updates.map fun u => ⟨u.time, p.line u.value ++ "\n"⟩ := by
  induction updates with
  | nil => rfl
  | cons u updates ih =>
      have hline := u.value.isEmpty_render p.handle.endpoint.text p.coloured
      rw [log, List.flatMap_cons, ← log, ih, inLog_of_ne_table hjson]
      simp [print, Output.printed, hquiet, hline, line]

/-- Lines without line feeds are found again by splitting at the line feeds. -/
theorem splitOn_lines {lines : List String} (h : ∀ text ∈ lines, '\n' ∉ text.toList) :
    (String.join (lines.map (· ++ "\n"))).toList.splitOn '\n' =
      lines.map String.toList ++ [[]] := by
  induction lines with
  | nil => rfl
  | cons text lines ih =>
      have hlater := ih fun t ht => h t (List.mem_cons_of_mem _ ht)
      rw [List.map_cons, String.join_cons, String.toList_append, String.toList_append,
        List.append_assoc]
      exact (List.splitOn_append_cons_self_of_not_mem (h text List.mem_cons_self) _).trans
        (congrArg (text.toList :: ·) hlater)

theorem newline_not_mem_line (p : CommandContext) (u : Update) : '\n' ∉ (p.line u).toList :=
  u.newline_not_mem_render _ _

/-- As JSON, a watch logs one line for each update, and each line tells all of its update.

The form in one line has no line feed, and both forms give back the update: its document as it was
written, and from it the records of a listing in their order, or the status with its phase and the
address. A log of updates, whatever they are and in whatever order they come, has a line for each
of them at its time, and splitting at the line feeds gives the lines back; only a quiet watch prints
nothing.

What a watch prints is the log of the status at its start and of the news of every state before the
interrupt: there each source that has announced anything since the state before tells once what
holds. Every change of the status, and of the listing in a slot, is such news. In which order the
sources are taken up makes no difference but to the order of the updates. -/
theorem each_line_tells_its_update :
    (∀ (url : String) (coloured : Bool) (u : Update),
      '\n' ∉ (u.render .jsonCompact url coloured).toList ∧
      u.IsToldBy url (u.render .jsonCompact url coloured) ∧
      u.IsToldBy url (u.render .json url coloured)) ∧
    (∀ p : CommandContext, p.resolved.output ≠ .table →
      (∀ (interrupt : Option Nat) (c : Course), c.later.Pairwise (·.time ≤ ·.time) →
        (p.watch interrupt c).printed = p.log (⟨0, .status c.start.status⟩ ::
          newsAlong c.start (c.later.filter fun state => interrupt.all (state.time < ·)))) ∧
      ∀ news : List (Timed Update),
        (p.options.quiet = true → p.log news = []) ∧
        (p.options.quiet = false →
          (p.log news).map (·.time) = news.map (·.time) ∧
          (String.join ((p.log news).map (·.value))).toList.splitOn '\n' =
            news.map (fun u => (p.line u.value).toList) ++ [[]] ∧
          ∀ u ∈ news, u.value.IsToldBy p.handle.endpoint.text (p.line u.value))) ∧
    (∀ before now : Monitor, before.Reachable → before.Leads now →
      (now.status ≠ before.status → .status ∈ Source.withNews before now) ∧
      ∀ r, now.snapshot r ≠ before.snapshot r → .listing r ∈ Source.withNews before now) ∧
    ∀ (w : Watch) (before now : Monitor) (sources : List Source),
      (∀ source, w.seen source = source.announced before) →
      sources.Nodup → (∀ source, source ∈ sources) →
      let taken := w.handleAll now sources
      taken.2 = (sources.filter (· ∈ Source.withNews before now)).map (·.update now) ∧
      ∀ source, taken.1.seen source = source.announced now := by
  refine ⟨fun url coloured u =>
      ⟨u.newline_not_mem_render url coloured, u.isToldBy_render url coloured⟩,
    fun p hjson => ⟨fun interrupt c hordered => ?_,
      fun news => ⟨fun hquiet => log_of_quiet hquiet news, fun hquiet => ?_⟩⟩,
    fun before now hbefore hleads => Source.mem_withNews_of_ne hbefore hleads,
    fun w before now sources hseen hnodup hall => Watch.handleAll_of_seen hseen now hnodup hall⟩
  · rw [← updates_eq hordered, printed_watch]
  · rw [log_of_loud hquiet hjson]
    refine ⟨by simp, ?_, fun u _ => (u.value.isToldBy_render _ _).1⟩
    have hone : ∀ text ∈ news.map fun u => p.line u.value, '\n' ∉ text.toList := by
      intro text htext
      obtain ⟨u, -, rfl⟩ := List.mem_map.mp htext
      exact p.newline_not_mem_line u.value
    simpa [List.map_map, Function.comp_def] using splitOn_lines hone

/-- The texts of a channel hold a line feed and a quote, and its listing is a line all the same. -/
theorem each_line_tells_a_listing_with_a_line_feed :
    let connected := (Session.start none).actAll [
      .broker (.offer "feed" "[::1]" .channels), .connection (.connect "a" "http://[::1]")]
    let listed := connected.actAll
      [.broker (.send "feed" .channels [{ topic := "\n\"" }]), .settle]
    let c : Course := ⟨connected.monitor, [⟨5, listed.monitor⟩]⟩
    let p : CommandContext := {
      options := default
      resolved := { (default : Resolved) with output := .json }
      handle := ⟨⟨1⟩, ⟨⟨.http, ⟨{}, .domain "h", none⟩, [""], none, none⟩⟩⟩
      coloured := false }
    let printed := (p.watch none c).printed
    let line := "[\x7b\"topic\":\"\\n\\\"\",\"publishers\":[],\"subscribers\":[]," ++
      "\"message_count\":0\x7d]"
    printed.map (·.time) = [0, 5, 5] ∧
    (String.join (printed.map (·.value))).toList.splitOn '\n' = [
      (p.line (.status connected.monitor.status)).toList,
      (p.line (.status listed.monitor.status)).toList, line.toList, []] ∧
    Json.readAll (Json.readList Resource.channels.readRecord) line =
      .ok [⟨"\n\"", [], [], 0⟩] := by
  intro connected listed c p printed line
  have hsources : Source.withNews connected.monitor listed.monitor =
      [.status, .listing .channels] := by decide +kernel
  have hrecords : (listed.monitor.snapshot .channels).records = [⟨"\n\"", [], [], 0⟩] := by
    decide +kernel
  have hline : p.line (.listing .channels [⟨"\n\"", [], [], 0⟩]) = line := by decide +kernel
  clear_value connected listed
  obtain ⟨-, hlog, -⟩ := each_line_tells_its_update
  obtain ⟨hprinted, hlines⟩ := hlog p nofun
  have hnews : printed = p.log [⟨0, .status connected.monitor.status⟩,
      ⟨5, .status listed.monitor.status⟩, ⟨5, .listing .channels [⟨"\n\"", [], [], 0⟩]⟩] := by
    have hall := hprinted none c (List.pairwise_singleton ..)
    simpa [c, newsAlong, hsources, Source.update, hrecords] using hall
  obtain ⟨htimes, hsplit, htold⟩ := (hlines _).2 rfl
  rw [← hnews] at htimes hsplit
  have hwhole := (htold _ (List.getLast_mem (List.cons_ne_nil _ _))).whole
  rw [← hline]
  exact ⟨htimes, hsplit, hwhole⟩

end CommandContext

end BrokerMonitor
