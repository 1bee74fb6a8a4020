import BrokerMonitor.Proofs.Course.Viewing
/-!
# Reading a line of the log

A line of a watch's log has no tag that says what it is about: a status is written as an object, and
a listing as the bare array of its records. A reader tells them apart by their form, and the
listings by the first member of a record, which no record of the other resource has. Only a listing
without records says nothing about its resource. So a line gives back its update, except that the
two empty listings have one line (`lines_tell_updates_apart`).
-/

namespace BrokerMonitor

/-- The member by which the records of a resource are known. -/
def Resource.mark : Resource → String
  | .channels => "topic"
  | .adapters => "name"

/-- The resource that a document is a record of. -/
def Resource.ofRecord? (j : Json) : Option Resource :=
  all.find? fun r => (j.member? r.mark).isSome

theorem Resource.ofRecord?_recordJson (r : Resource) (record : r.Record) :
    ofRecord? (r.recordJson record) = some r := by
  cases r <;>
    simp [ofRecord?, all, mark, recordJson, Channel.json, Adapter.json, Json.member?]

/-- What a reader learns from a line. -/
inductive LineNews where
  | update (u : Update)
  /-- The listing of some resource is empty. -/
  | nothingListed

namespace Update

/-- What there is to learn from the line of an update. -/
def news : Update → LineNews
  | .listing _ [] => .nothingListed
  | u => .update u

/-- Everything is learned from an update but for an empty listing. -/
theorem news_cases (u : Update) :
    (∃ r, u = .listing r [] ∧ u.news = .nothingListed) ∨ u.news = .update u := by
  cases u with
  | status s => exact .inr rfl
  | listing r records =>
      cases records with
      | nil => exact .inl ⟨r, rfl, rfl⟩
      | cons first rest => exact .inr rfl

/-- The same is learned from two updates if they are the same, or both are empty listings. -/
theorem news_eq_news_iff {u v : Update} :
    u.news = v.news ↔ u = v ∨ ∃ q r, u = .listing q [] ∧ v = .listing r [] := by
  constructor
  · intro h
    obtain ⟨q, hempty, hu⟩ | hu := u.news_cases
    · obtain ⟨r, hempty', hv⟩ | hv := v.news_cases
      · exact .inr ⟨q, r, hempty, hempty'⟩
      · rw [hu, hv] at h
        cases h
    · obtain ⟨r, hempty, hv⟩ | hv := v.news_cases
      · rw [hu, hv] at h
        cases h
      · rw [hu, hv] at h
        exact .inl (LineNews.update.inj h)
  · rintro (rfl | ⟨q, r, rfl, rfl⟩) <;> rfl

theorem eq_of_listing? {u : Update} {r : Resource} {records : List r.Record}
    (h : u.listing? r = some records) : u = .listing r records := by
  cases u with
  | status s => cases h
  | listing q listed =>
      by_cases hq : q = r
      · subst hq
        rw [listing?_self] at h
        rw [Option.some.inj h]
      · rw [listing?_of_ne hq] at h
        cases h

end Update

namespace LineNews

/-- Reads the records of `r` in a line. -/
def readListing? (r : Resource) (text : String) : Option LineNews :=
  match Json.readAll (Json.readList r.readRecord) text with
  | .ok records => some (.update (.listing r records))
  | .error _ => none

/-- Reads a line by the form of its document. -/
def read? (text : String) : Option LineNews :=
  match Json.readDocument text with
  | .ok (.array []) => some .nothingListed
  | .ok (.array (first :: _)) => (Resource.ofRecord? first).bind (readListing? · text)
  | .ok j => (StatusReport.ofJson? j).map fun report => .update (.status report.status)
  | .error _ => none

/-- A line gives back what there is to learn from its update. -/
theorem read?_render (url : String) (coloured : Bool) (u : Update) :
    read? (u.render .jsonCompact url coloured) = some u.news := by
  obtain ⟨hdocument, hwhole⟩ := (u.isToldBy_render url coloured).1
  unfold read?
  rw [hdocument]
  cases u with
  | status s =>
      have hreport : StatusReport.ofJson? (Output.statusJson url s) = some ⟨url, s.phase, s⟩ :=
        hwhole
      simp only [Update.json, Output.statusJson] at hreport ⊢
      rw [hreport]
      rfl
  | listing r records =>
      cases records with
      | nil => rfl
      | cons first rest =>
          have hrecords : Json.readAll (Json.readList r.readRecord)
              ((Update.listing r (first :: rest)).render .jsonCompact url coloured) =
                .ok (first :: rest) := hwhole
          have hresource : Resource.ofRecord? (r.recordJson first) = some r :=
            r.ofRecord?_recordJson first
          simp only [Update.json, Output.listingJson, Json.ofList, List.map_cons, hresource,
            Option.bind_some, readListing?, hrecords]
          rfl

end LineNews

namespace CommandContext

/-- Two updates have one line only if they are the same, or both are empty listings. -/
theorem line_eq_line_iff (p : CommandContext) {u v : Update} :
    p.line u = p.line v ↔ u = v ∨ ∃ q r, u = .listing q [] ∧ v = .listing r [] := by
  constructor
  · intro h
    apply Update.news_eq_news_iff.mp
    apply Option.some.inj
    calc some u.news = LineNews.read? (p.line u) := (LineNews.read?_render _ _ u).symm
      _ = LineNews.read? (p.line v) := congrArg LineNews.read? h
      _ = some v.news := LineNews.read?_render _ _ v
  · rintro (rfl | ⟨q, r, rfl, rfl⟩)
    · rfl
    · cases q <;> cases r <;> rfl

/-- As JSON, the lines of a watch tell its updates apart. Reading a line gives back the status, or
the listing with the resource that it is about; of an empty listing it gives back that it is empty,
and not which one it is. So two different updates of one connection have different lines, unless
they are the two empty listings. What a watch prints are these lines, one for each update. -/
theorem lines_tell_updates_apart :
    (∀ (url : String) (coloured : Bool) (u : Update),
      LineNews.read? (u.render .jsonCompact url coloured) = some u.news) ∧
    (∀ u v : Update,
      u.news = v.news ↔ u = v ∨ ∃ q r, u = .listing q [] ∧ v = .listing r []) ∧
    ∀ p : CommandContext,
      (∀ u v : Update,
        p.line u = p.line v ↔ u = v ∨ ∃ q r, u = .listing q [] ∧ v = .listing r []) ∧
      (p.resolved.output ≠ .table → p.options.quiet = false →
        ∀ (interrupt : Option Nat) (c : Course), (p.watch interrupt c).printed =
          (updates interrupt c).map fun u => ⟨u.time, p.line u.value ++ "\n"⟩) := by
  refine ⟨LineNews.read?_render, fun u v => Update.news_eq_news_iff, fun p => ⟨?_, ?_⟩⟩
  · exact fun u v => p.line_eq_line_iff
  · intro hjson hquiet interrupt c
    rw [p.printed_watch, log_of_loud hquiet hjson]

/-- A watch that prints an empty listing of either resource prints the same line twice. -/
theorem lines_do_not_tell_empty_listings_apart :
    ¬ ∀ (p : CommandContext) (c : Course), c.Carries p.handle → p.resolved.output ≠ .table →
      ∀ u ∈ updates none c, ∀ v ∈ updates none c,
        p.line u.value = p.line v.value → u.value = v.value := by
  intro h
  let connected := (Session.start none).actAll [
    .broker (.offer "first" "[::1]" .channels), .broker (.offer "second" "[::1]" .adapters),
    .connection (.connect "a" "http://[::1]")]
  let first := connected.actAll [.broker (.send "first" .channels []), .settle]
  let second := first.actAll [.broker (.send "second" .adapters []), .settle]
  let c : Course := ⟨connected.monitor, [⟨0, first.monitor⟩, ⟨5, second.monitor⟩]⟩
  have hstart : (Monitor.initial none).Leads connected.monitor :=
    Session.monitor_leads ((Session.start none).leads_actAll _)
  have hfirst : connected.monitor.Leads first.monitor :=
    Session.monitor_leads (connected.leads_actAll _)
  have hsecond : first.monitor.Leads second.monitor := Session.monitor_leads (first.leads_actAll _)
  have halive : connected.monitor.alive = true ∧ first.monitor.alive = true ∧
      second.monitor.alive = true := by decide +kernel
  have hepoch : connected.monitor.handle.any (fun h =>
      connected.monitor.epoch == (h.generation, some h) &&
      first.monitor.epoch == (h.generation, some h) &&
      second.monitor.epoch == (h.generation, some h)) = true := by decide +kernel
  have hempty : (updates none c).any (·.value.listing? .channels == some []) = true ∧
      (updates none c).any (·.value.listing? .adapters == some []) = true := by decide +kernel
  obtain ⟨handle, -, hepochs⟩ := (Option.any_eq_true _ _).mp hepoch
  simp only [Bool.and_eq_true, beq_iff_eq] at hepochs
  clear_value connected first second
  have hcarries : c.Carries handle := by
    constructor
    · intro state hstate
      simp only [c, Course.states, List.mem_cons, List.not_mem_nil, or_false] at hstate
      obtain rfl | rfl | rfl := hstate
      · exact ⟨⟨none, hstart⟩, halive.1, hepochs.1.1⟩
      · exact ⟨⟨none, hstart.trans hfirst⟩, halive.2.1, hepochs.1.2⟩
      · exact ⟨⟨none, (hstart.trans hfirst).trans hsecond⟩, halive.2.2, hepochs.2⟩
    · simpa [c, Course.states] using ⟨⟨hfirst, hfirst.trans hsecond⟩, hsecond⟩
  let p : CommandContext := ⟨default, { (default : Resolved) with output := .json }, handle, false⟩
  obtain ⟨u, hu, hchannels⟩ := List.any_eq_true.mp hempty.1
  obtain ⟨v, hv, hadapters⟩ := List.any_eq_true.mp hempty.2
  have hchannels : u.value = .listing .channels [] := Update.eq_of_listing? (eq_of_beq hchannels)
  have hadapters : v.value = .listing .adapters [] := Update.eq_of_listing? (eq_of_beq hadapters)
  have hjson : OutputFormat.json ≠ .table := by decide
  have hline : p.line u.value = p.line v.value := by
    rw [hchannels, hadapters]
    rfl
  have hsame := h p c hcarries hjson u hu v hv hline
  rw [hchannels, hadapters] at hsame
  cases hsame

end CommandContext

end BrokerMonitor
