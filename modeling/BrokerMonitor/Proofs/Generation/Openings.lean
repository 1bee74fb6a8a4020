import BrokerMonitor.Proofs.Frame
import BrokerMonitor.Proofs.Generation.Lockstep
/-!
# What a run of actions opens

`openings` is the list of what a run of actions has opened, in order: a connection for each
connect that succeeded, and none for each shutdown. The generation of a monitor counts them, and
the handle is that of the last one. So the handle of a connect tells at which place in that list it
stands, and two handles are the same exactly when they come from the same connect.
-/

namespace BrokerMonitor

/-- What a connect or a shutdown opens. -/
inductive Opening where
  | connection (url : String) (h : Handle)
  | detachment
deriving DecidableEq

/-- The handle that is current while nothing else is opened. -/
def Opening.handle? : Opening → Option Handle
  | .connection _ h => some h
  | .detachment => none

/-- What an action with this answer has opened. A connect that was refused has opened nothing, and
neither has one that found the monitor dropped or the generations used up. -/
def Action.opening? : Action → Answer → Option Opening
  | .connection (.connect _ url), .connected h => some (.connection url h)
  | .connection .shutdown, .done => some .detachment
  | _, _ => none

namespace Session

/-- What a run of actions opens, in order. -/
def openings (s : Session) : List Action → List Opening
  | [] => []
  | a :: rest => (a.opening? (s.act a).2).toList ++ (s.act a).1.openings rest

/-- What only a connect or a shutdown changes: the generation, the handle, and the handles kept. -/
def epoch (s : Session) : (Generation × Option Handle) × Roster Handle :=
  (s.monitor.epoch, s.handles)

theorem epoch_actBroker (s : Session) (a : BrokerAction) : (s.actBroker a).1.epoch = s.epoch := by
  obtain ⟨_, _, _, _, _, h⟩ := s.exists_actBroker_eq a
  rw [h]
  rfl

theorem epoch_actSubscriber (s : Session) (a : SubscriberAction) :
    (s.actSubscriber a).1.epoch = s.epoch := by
  obtain ⟨_, _, _, _, _, _, h⟩ := s.exists_actSubscriber_eq a
  rw [h]
  rfl

theorem epoch_actClient (s : Session) (a : ClientAction) : (s.actClient a).1.epoch = s.epoch := by
  obtain ⟨_, _, _, h⟩ := s.exists_actClient_eq a
  rw [h]
  rfl

/-- An action that has led from `s` to `s'` has opened `o`. -/
structure Opens (s s' : Session) (o : Opening) : Prop where
  next : s.monitor.generation.next? = some s'.monitor.generation
  handle : s'.monitor.handle = o.handle?
  connection : ∀ url h, o = .connection url h →
    h.generation = s'.monitor.generation ∧ Endpoint.parse url = .ok h.endpoint
  kept : ∀ e ∈ s'.handles.entries, e ∈ s.handles.entries ∨ ∃ url, o = .connection url e.2

theorem actConnection_cases (s : Session) (a : ConnectionAction) :
    ((Action.connection a).opening? (s.actConnection a).2 = none ∧
      (s.actConnection a).1.epoch = s.epoch) ∨
    ∃ o, (Action.connection a).opening? (s.actConnection a).2 = some o ∧
      s.Opens (s.actConnection a).1 o := by
  cases a with
  | connect name url =>
      simp only [actConnection]
      split
      · rcases s.monitor.connect_cases url with ⟨e, h⟩ | ⟨e, h⟩ | h | ⟨g, endpoint, hg, hurl, h⟩
        · exact .inl (by rw [connect, h]; exact ⟨rfl, rfl⟩)
        · exact .inl (by rw [connect, h]; exact ⟨rfl, rfl⟩)
        · exact .inl (by rw [connect, h]; exact ⟨rfl, rfl⟩)
        · refine .inr ⟨.connection url ⟨g, endpoint⟩, ?_⟩
          rw [connect, h]
          refine ⟨rfl, hg, rfl, ?_, ?_⟩
          · rintro _ _ ⟨⟩
            exact ⟨rfl, hurl⟩
          · intro e he
            rcases List.mem_cons.mp he with rfl | hold
            · exact .inr ⟨url, rfl⟩
            · exact .inl (List.mem_filter.mp hold).1
      · exact .inl ⟨rfl, rfl⟩
  | shutdown =>
      simp only [actConnection]
      split
      · cases hg : s.monitor.generation.next? with
        | none =>
            simp only [Monitor.shutdown?, hg]
            exact .inl ⟨rfl, rfl⟩
        | some g =>
            simp only [Monitor.shutdown?, hg]
            exact .inr ⟨.detachment, rfl, hg, rfl, by rintro _ _ ⟨⟩, fun e he => .inl he⟩
      · exact .inl ⟨rfl, rfl⟩
  | isSame a b | drop =>
      refine .inl ⟨rfl, ?_⟩
      simp only [actConnection]
      split <;> rfl

/-- An action opens the next generation, or it opens nothing and leaves the epoch as it was. -/
theorem act_cases (s : Session) (a : Action) :
    (a.opening? (s.act a).2 = none ∧ (s.act a).1.epoch = s.epoch) ∨
    ∃ o, a.opening? (s.act a).2 = some o ∧ s.Opens (s.act a).1 o := by
  cases a with
  | broker a => exact .inl ⟨rfl, s.epoch_actBroker a⟩
  | connection a => exact s.actConnection_cases a
  | subscriber a => exact .inl ⟨rfl, s.epoch_actSubscriber a⟩
  | client a => exact .inl ⟨rfl, s.epoch_actClient a⟩
  | run j =>
      refine .inl ⟨rfl, ?_⟩
      simp only [act]
      split
      · exact Prod.ext (s.monitor.epoch_run j) rfl
      · rfl
  | settle => exact .inl ⟨rfl, Prod.ext (s.monitor.epoch_settleWithin _) rfl⟩

theorem generation_act_le (s : Session) (a : Action) :
    (s.act a).1.monitor.generation.toNat ≤ s.monitor.generation.toNat + 1 := by
  rcases s.act_cases a with ⟨-, h⟩ | ⟨o, -, h⟩
  · have hsame : (s.act a).1.monitor.generation = s.monitor.generation := congrArg (·.1.1) h
    exact hsame ▸ Nat.le_succ _
  · exact Nat.le_of_eq (Generation.toNat_of_next? h.next)

/-- A session keeps the record of what has been opened in it. -/
structure Recorded (s : Session) (past : List Opening) : Prop where
  count : s.monitor.generation.toNat = past.length
  handle : s.monitor.handle = past.getLast?.bind Opening.handle?
  /-- Connection `k`, from zero, has generation `k + 1`, as the initial generation is nobody's. -/
  place : ∀ k url h, past[k]? = some (.connection url h) →
    h.generation.toNat = k + 1 ∧ Endpoint.parse url = .ok h.endpoint
  kept : ∀ e ∈ s.handles.entries, ∃ (k : Nat) (url : String), past[k]? = some (.connection url e.2)

namespace Recorded

variable {s s' : Session} {past : List Opening} {o : Opening}

theorem start (rate : Option UInt32) : (Session.start rate).Recorded [] :=
  ⟨rfl, rfl, by simp, by simp [Session.start]⟩

theorem of_epoch (hs : s.Recorded past) (h : s'.epoch = s.epoch) : s'.Recorded past := by
  have hg : s'.monitor.generation = s.monitor.generation := congrArg (·.1.1) h
  have hh : s'.monitor.handle = s.monitor.handle := congrArg (·.1.2) h
  have hkept : s'.handles = s.handles := congrArg (·.2) h
  exact ⟨hg ▸ hs.count, hh ▸ hs.handle, hs.place, hkept ▸ hs.kept⟩

/-- What is opened next goes behind the others. -/
theorem opens (hs : s.Recorded past) (h : s.Opens s' o) : s'.Recorded (past ++ [o]) := by
  have hnext : s'.monitor.generation.toNat = past.length + 1 :=
    hs.count ▸ Generation.toNat_of_next? h.next
  refine ⟨by simpa using hnext, by simpa using h.handle, ?_, ?_⟩
  · intro k url hk hplace
    rcases Nat.lt_or_ge k past.length with hlt | hge
    · rw [List.getElem?_append_left hlt] at hplace
      exact hs.place k url hk hplace
    · rw [List.getElem?_append_right hge, List.getElem?_singleton] at hplace
      split at hplace
      · next hzero =>
          obtain ⟨hgeneration, hurl⟩ := h.connection url hk (Option.some.inj hplace)
          refine ⟨?_, hurl⟩
          rw [hgeneration]
          omega
      · cases hplace
  · intro e he
    rcases h.kept e he with hold | ⟨url, rfl⟩
    · obtain ⟨k, url, hk⟩ := hs.kept e hold
      obtain ⟨hlt, -⟩ := List.getElem?_eq_some_iff.mp hk
      exact ⟨k, url, List.getElem?_append_left hlt ▸ hk⟩
    · exact ⟨past.length, url, by simp⟩

theorem act (hs : s.Recorded past) (a : Action) :
    (s.act a).1.Recorded (past ++ (a.opening? (s.act a).2).toList) := by
  rcases s.act_cases a with ⟨ho, h⟩ | ⟨o, ho, h⟩
  · rw [ho, Option.toList_none, List.append_nil]
    exact hs.of_epoch h
  · rw [ho]
    exact hs.opens h

theorem actAll (hs : s.Recorded past) (run : List Action) :
    (s.actAll run).Recorded (past ++ s.openings run) := by
  induction run generalizing s past with
  | nil => simpa [openings, Session.actAll] using hs
  | cons a rest ih => simpa [openings, Session.actAll] using ih (hs.act a)

/-- The handle is that of the last opening, if this was a connection. -/
theorem handle_eq_some_iff (hs : s.Recorded past) (h : Handle) :
    s.monitor.handle = some h ↔ ∃ url, past.getLast? = some (.connection url h) := by
  rw [hs.handle, Option.bind_eq_some_iff]
  constructor
  · rintro ⟨o, ho, hh⟩
    cases o with
    | detachment => cases hh
    | connection url k =>
        cases hh
        exact ⟨url, ho⟩
  · rintro ⟨url, ho⟩
    exact ⟨_, ho, rfl⟩

/-- Two connections have the same generation only if they are one. -/
theorem isSame_iff (hs : s.Recorded past) {i j : Nat} {u v : String} {h k : Handle}
    (hi : past[i]? = some (.connection u h)) (hj : past[j]? = some (.connection v k)) :
    h.isSame k = true ↔ i = j := by
  have hi' := (hs.place i u h hi).1
  have hj' := (hs.place j v k hj).1
  constructor
  · intro hsame
    have hgen : h.generation = k.generation := by simpa [Handle.isSame] using hsame
    rw [hgen] at hi'
    omega
  · rintro rfl
    have hgen : h.generation = k.generation := Generation.toNat_injective (by omega)
    simpa [Handle.isSame] using hgen

end Recorded

/-- A shutdown of a monitor that is there is done, unless the generations are used up. -/
theorem answer_shutdown {s : Session} (halive : s.monitor.alive = true) :
    (s.act (.connection .shutdown)).2 =
      if s.monitor.generation.toNat + 1 < UInt64.size then .done else .exhausted := by
  simp only [act, actConnection, if_pos halive, Monitor.shutdown?, Generation.next?,
    Generation.advance?]
  by_cases hlt : s.monitor.generation.toNat + 1 < UInt64.size
  · rw [if_pos hlt, if_pos hlt]
    rfl
  · rw [if_neg hlt, if_neg hlt]
    rfl

/-- In every state of a run the generation is the same in all four places that keep it, and counts
the successful connects and shutdowns. The handle is that of the last of them, and handles tell
apart exactly the connects that they come from. While the monitor is there, every shutdown succeeds
and so is counted, up to the last of the 64-bit generations. -/
theorem generation_counts_openings (rate : Option UInt32) (run : List Action) :
    let s := (start rate).actAll run
    let past := (start rate).openings run
    s.monitor.generation.toNat = past.length ∧
    s.monitor.status.generation = s.monitor.generation ∧
    (∀ r, (s.monitor.snapshot r).generation = s.monitor.generation) ∧
    (∀ h, s.monitor.handle = some h →
      h.generation = s.monitor.generation ∧
      ∃ url, past.getLast? = some (.connection url h) ∧ Endpoint.parse url = .ok h.endpoint) ∧
    (s.monitor.handle.isSome ↔ ∃ url h, past.getLast? = some (.connection url h)) ∧
    (∀ name h, s.handles.get? name = some h → ∃ (k : Nat) (url : String),
      past[k]? = some (.connection url h)) ∧
    (∀ (i j : Nat) (u v : String) (h k : Handle),
      past[i]? = some (.connection u h) → past[j]? = some (.connection v k) →
      (h.isSame k = true ↔ i = j) ∧ (i < j → h.generation < k.generation)) ∧
    (s.monitor.alive = true → (s.act (.connection .shutdown)).2 =
      if past.length + 1 < UInt64.size then .done else .exhausted) := by
  intro s past
  have hs : s.Recorded past := (Recorded.start rate).actAll run
  have hlock : s.monitor.Lockstep :=
    (Monitor.Lockstep.initial rate).leads (monitor_leads ((start rate).leads_actAll run))
  refine ⟨hs.count, hlock.status, hlock.snapshot, ?_, ?_, ?_, ?_, ?_⟩
  · intro h hh
    obtain ⟨url, hlast⟩ := (hs.handle_eq_some_iff h).mp hh
    have hplace := hs.place _ url h (List.getLast?_eq_getElem? ▸ hlast)
    exact ⟨hlock.handle h hh, url, hlast, hplace.2⟩
  · rw [Option.isSome_iff_exists]
    constructor
    · rintro ⟨h, hh⟩
      obtain ⟨url, hlast⟩ := (hs.handle_eq_some_iff h).mp hh
      exact ⟨url, h, hlast⟩
    · rintro ⟨url, h, hlast⟩
      exact ⟨h, (hs.handle_eq_some_iff h).mpr ⟨url, hlast⟩⟩
  · intro name h hget
    obtain ⟨l₁, l₂, hentries, -⟩ := List.lookup_eq_some_iff.mp hget
    exact hs.kept (name, h) (hentries ▸ by simp)
  · intro i j u v h k hi hj
    refine ⟨hs.isSame_iff hi hj, fun hlt => ?_⟩
    change h.generation.toNat < k.generation.toNat
    rw [(hs.place i u h hi).1, (hs.place j v k hj).1]
    omega
  · intro halive
    rw [answer_shutdown halive, hs.count]

/-- Two connects to one address with a shutdown between them have different handles. -/
theorem generation_counts_openings_with_a_shutdown :
    let url := "http://[::1]"
    let e : Endpoint :=
      ⟨⟨.http, ⟨{}, .ipv6 ⟨#v[0, 0, 0, 0, 0, 0, 0, 1]⟩, none⟩, [""], none, none⟩⟩
    let run : List Action := [.connection (.connect "a" url), .connection .shutdown,
      .connection (.connect "b" url)]
    let s := (start none).actAll run
    (start none).openings run =
      [.connection url ⟨⟨1⟩, e⟩, .detachment, .connection url ⟨⟨3⟩, e⟩] ∧
    s.monitor.generation.toNat = 3 ∧ s.monitor.handle.isSome = true ∧
    Handle.isSame ⟨⟨1⟩, e⟩ ⟨⟨3⟩, e⟩ = false ∧ (s.act (.connection .shutdown)).2 = .done := by
  intro url e run s
  have hpast : (start none).openings run =
      [.connection url ⟨⟨1⟩, e⟩, .detachment, .connection url ⟨⟨3⟩, e⟩] := by decide +kernel
  have halive : s.monitor.alive = true := by decide +kernel
  obtain ⟨hcount, -, -, -, hhandle, -, hsame, hshutdown⟩ := generation_counts_openings none run
  rw [hpast] at hcount hhandle hsame hshutdown
  refine ⟨hpast, hcount, hhandle.mpr ⟨url, _, rfl⟩, ?_, hshutdown halive⟩
  exact Bool.eq_false_iff.mpr fun h => absurd ((hsame 0 2 _ _ _ _ rfl rfl).1.mp h) (by decide)

end Session

end BrokerMonitor
