import Mathlib.Logic.Function.Basic
import BrokerMonitor.Proofs.Ending.LastNews
import BrokerMonitor.Proofs.Listing.Writes
/-!
# A slot and its subscriptions

A publication is a slot with any number of subscriptions to it, each under a name. Writes to the
slot, the calls of the subscriptions and the end of the store come in any order.

What a subscription is answered is told by two moments: its mark, when it last saw the slot's
listing by subscribing or by a change that it was given, and now. Between the two it has missed the
resets and the accepted replacements, and these alone are news (`changed_of_marked`). The calls of
others do not matter (`trace_filter`).
-/

namespace BrokerMonitor

/-- A slot, and those who follow it. -/
structure Publication (α : Type) where
  slot : Slot α
  /-- The slot's store no longer exists. -/
  gone : Bool := false
  readers : String → Option (Subscription α) := fun _ => none

namespace Publication

variable {α : Type}

/-- What a subscription is asked for. -/
inductive Call where
  | subscribe
  | current
  | latest
  | changed
  /-- The subscription is given up. -/
  | leave
deriving DecidableEq

/-- What happens to a publication. -/
inductive Event (α : Type) where
  | write (w : Slot.Write α)
  /-- The slot's store ceases to exist. -/
  | drop
  | call (name : String) (c : Call)

inductive Reply (α : Type) where
  | done
  /-- There is no such subscription. -/
  | missing
  | snapshot (s : Snapshot α)
  | next (n : Next α)

/-- Makes `f` the subscription of a name. -/
def put (p : Publication α) (name : String) (f : Option (Subscription α)) : Publication α :=
  { p with readers := Function.update p.readers name f }

/-- Answers a call. Nobody subscribes to a store that is gone. -/
def call (p : Publication α) (name : String) : Call → Publication α × Reply α
  | .subscribe => if p.gone then (p, .missing) else (p.put name (some (.start p.slot)), .done)
  | .leave => (p.put name none, .done)
  | .current =>
    match p.readers name with
    | some f => (p, .snapshot f.current)
    | none => (p, .missing)
  | .latest =>
    match p.readers name with
    | some _ => (p, .snapshot p.slot.value)
    | none => (p, .missing)
  | .changed =>
    match p.readers name with
    | some f => (p.put name (some (f.changed p.slot p.gone).1), .next (f.changed p.slot p.gone).2)
    | none => (p, .missing)

def act (p : Publication α) : Event α → Publication α × Reply α
  | .write w => (if p.gone then p else { p with slot := p.slot.write w }, .done)
  | .drop => ({ p with gone := true }, .done)
  | .call name c => p.call name c

def actAll (p : Publication α) (events : List (Event α)) : Publication α :=
  events.foldl (fun p e => (p.act e).1) p

/-- Some events with the replies to them. -/
def trace (p : Publication α) : List (Event α) → List (Event α × Reply α)
  | [] => []
  | e :: rest => (e, (p.act e).2) :: (p.act e).1.trace rest

@[simp] theorem actAll_cons (p : Publication α) (e : Event α) (rest : List (Event α)) :
    p.actAll (e :: rest) = (p.act e).1.actAll rest := rfl

theorem actAll_append (p : Publication α) (first later : List (Event α)) :
    p.actAll (first ++ later) = (p.actAll first).actAll later :=
  List.foldl_append

theorem trace_append (p : Publication α) (first later : List (Event α)) :
    p.trace (first ++ later) = p.trace first ++ (p.actAll first).trace later := by
  induction first generalizing p with
  | nil => rfl
  | cons e rest ih => exact congrArg (List.cons (e, (p.act e).2)) (ih _)

variable {p : Publication α} {name : String} {f : Subscription α}

/-! ### What is news -/

/-- The event is a reset or an accepted replacement. -/
def isNews (p : Publication α) : Event α → Bool
  | .write w => !p.gone && p.slot.accepts w
  | _ => false

/-- How many resets and accepted replacements there are among some events. -/
def changes (p : Publication α) : List (Event α) → Nat
  | [] => 0
  | e :: rest => (p.isNews e).toNat + (p.act e).1.changes rest

theorem slot_call (p : Publication α) (name : String) (c : Call) :
    (p.call name c).1.slot = p.slot ∧ (p.call name c).1.gone = p.gone := by
  cases c with
  | subscribe =>
      rw [call]
      split <;> exact ⟨rfl, rfl⟩
  | leave => exact ⟨rfl, rfl⟩
  | current | latest | changed =>
      rw [call]
      split <;> exact ⟨rfl, rfl⟩

/-- What is no news leaves the slot as it is. -/
theorem slot_act_of_not_news {e : Event α} (h : p.isNews e = false) :
    (p.act e).1.slot = p.slot := by
  cases e with
  | drop => rfl
  | call name c => exact (p.slot_call name c).1
  | write w =>
      rw [act]
      cases hgone : p.gone with
      | true => rfl
      | false =>
          have hrejected : p.slot.accepts w = false := by simpa [isNews, hgone] using h
          exact Slot.write_of_rejected hrejected

theorem version_act (p : Publication α) (e : Event α) :
    (p.act e).1.slot.version = p.slot.version + (p.isNews e).toNat := by
  cases hnews : p.isNews e with
  | false => rw [slot_act_of_not_news hnews]; rfl
  | true =>
      cases e with
      | drop | call name c => cases hnews
      | write w =>
          have haccepts : p.gone = false ∧ p.slot.accepts w = true := by simpa [isNews] using hnews
          simp [act, haccepts, Slot.version_write]

theorem version_actAll (p : Publication α) (events : List (Event α)) :
    (p.actAll events).slot.version = p.slot.version + p.changes events := by
  induction events generalizing p with
  | nil => rfl
  | cons e rest ih =>
      rw [actAll_cons, ih, version_act, changes]
      omega

theorem slot_actAll_of_no_changes {events : List (Event α)} (h : p.changes events = 0) :
    (p.actAll events).slot = p.slot := by
  induction events generalizing p with
  | nil => rfl
  | cons e rest ih =>
      have hnone : (p.isNews e).toNat = 0 ∧ (p.act e).1.changes rest = 0 := by
        simp only [changes] at h
        omega
      rw [actAll_cons, ih hnone.2]
      apply slot_act_of_not_news
      simpa using hnone.1

/-- A subscription that has seen the slot has missed nothing exactly if there was no news since. -/
theorem seenBy_actAll (p : Publication α) (events : List (Event α)) :
    (p.actAll events).slot.seenBy p.slot.subscribe = decide (p.changes events = 0) := by
  rw [Bool.eq_iff_iff]
  simp only [Cell.seenBy, Cell.subscribe, version_actAll, beq_iff_eq, decide_eq_true_eq]
  omega

/-- Once the store is gone, it stays gone and the slot stays as it is. -/
theorem actAll_of_gone (h : p.gone = true) (events : List (Event α)) :
    (p.actAll events).gone = true ∧ (p.actAll events).slot = p.slot := by
  induction events generalizing p with
  | nil => exact ⟨h, rfl⟩
  | cons e rest ih =>
      have hstep : (p.act e).1.gone = true ∧ (p.act e).1.slot = p.slot := by
        cases e with
        | drop => exact ⟨rfl, rfl⟩
        | write w => simp [act, h]
        | call name c =>
            obtain ⟨hslot, hgone⟩ := p.slot_call name c
            exact ⟨hgone.trans h, hslot⟩
      obtain ⟨hgone, hslot⟩ := ih hstep.1
      exact ⟨hgone, hslot.trans hstep.2⟩

/-! ### Marks -/

/-- The subscription of a name is made, or is given a change. -/
def marks (name : String) : Event α × Reply α → Bool
  | (.call n .subscribe, .done) => n == name
  | (.call n .changed, .next (.snapshot _)) => n == name
  | _ => false

/-- The subscription of a name is given up. -/
def leaves (name : String) : Event α × Reply α → Bool
  | (.call n .leave, _) => n == name
  | _ => false

/-- Nothing happens by which the subscription of a name moves. -/
def isQuiet (name : String) (entry : Event α × Reply α) : Bool :=
  !marks name entry && !leaves name entry

/-- At its mark a subscription sees what the slot holds. -/
theorem readers_of_marked {e : Event α} (h : marks name (e, (p.act e).2) = true) :
    (p.act e).1.readers name = some (.start p.slot) ∧ (p.act e).1.slot = p.slot ∧
      ((p.act e).2 = .done ∨ (p.act e).2 = .next (.snapshot p.slot.value)) := by
  cases e with
  | write w | drop => cases h
  | call n c =>
      cases c with
      | current | latest | leave => simp [marks] at h
      | subscribe =>
          simp only [act, call] at h ⊢
          cases hgone : p.gone with
          | true => simp [hgone, marks] at h
          | false =>
              simp only [hgone, Bool.false_eq_true, if_false, marks, beq_iff_eq] at h ⊢
              subst h
              exact ⟨Function.update_self .., rfl, .inl trivial⟩
      | changed =>
          simp only [act, call] at h ⊢
          cases hreader : p.readers n with
          | none => simp [hreader, marks] at h
          | some f =>
              simp only [hreader, Subscription.changed_eq] at h ⊢
              cases hseen : p.slot.seenBy f.receiver with
              | true => cases hgone : p.gone <;> simp [hseen, hgone, marks] at h
              | false =>
                  simp only [hseen, Bool.false_eq_true, if_false, marks, beq_iff_eq] at h ⊢
                  subst h
                  exact ⟨Function.update_self .., rfl, .inr trivial⟩

/-- A subscription moves by nothing else. -/
theorem readers_of_quiet {e : Event α} (h : isQuiet name (e, (p.act e).2) = true) :
    (p.act e).1.readers name = p.readers name := by
  cases e with
  | drop => rfl
  | write w =>
      rw [act]
      split <;> rfl
  | call n c =>
      by_cases hn : n = name
      · subst hn
        cases c with
        | leave => simp [isQuiet, leaves] at h
        | subscribe =>
            simp only [act, call] at h ⊢
            cases hgone : p.gone with
            | true => rfl
            | false => simp [hgone, isQuiet, marks] at h
        | current | latest =>
            simp only [act, call]
            split <;> rfl
        | changed =>
            simp only [act, call] at h ⊢
            cases hreader : p.readers n with
            | none => exact hreader
            | some f =>
                simp only [hreader, Subscription.changed_eq] at h ⊢
                cases hseen : p.slot.seenBy f.receiver with
                | true => exact Function.update_self ..
                | false => simp [hseen, isQuiet, marks] at h
      · have hother : ∀ f, (p.put n f).readers name = p.readers name :=
          fun f => Function.update_of_ne (Ne.symm hn) ..
        cases c with
        | subscribe =>
            simp only [act, call]
            split
            · rfl
            · exact hother _
        | leave => exact hother none
        | current | latest | changed =>
            simp only [act, call]
            split <;> first | rfl | exact hother _

theorem readers_actAll_of_quiet {events : List (Event α)}
    (h : ∀ entry ∈ p.trace events, isQuiet name entry = true) :
    (p.actAll events).readers name = p.readers name := by
  induction events generalizing p with
  | nil => rfl
  | cons e rest ih =>
      obtain ⟨hfirst, hrest⟩ := List.forall_mem_cons.mp h
      exact (ih hrest).trans (readers_of_quiet hfirst)

/-- A subscription that is there was marked, and since then it was left in peace. -/
theorem exists_mark {start : Publication α} (hstart : start.readers name = none)
    {run : List (Event α)} (hthere : (start.actAll run).readers name ≠ none) :
    ∃ first e later, run = first ++ e :: later ∧
      marks name (e, ((start.actAll first).act e).2) = true ∧
      ∀ entry ∈ ((start.actAll first).act e).1.trace later, isQuiet name entry = true := by
  induction run using List.reverseRecOn with
  | nil => exact absurd hstart hthere
  | append_singleton run e ih =>
      have hlast : start.actAll (run ++ [e]) = ((start.actAll run).act e).1 :=
        start.actAll_append run [e]
      cases hmarks : marks name (e, ((start.actAll run).act e).2) with
      | true => exact ⟨run, e, [], rfl, hmarks, by simp [trace]⟩
      | false =>
          cases hleaves : leaves name (e, ((start.actAll run).act e).2) with
          | true =>
              obtain ⟨n, rfl, hn⟩ : ∃ n, e = .call n .leave ∧ n = name := by
                unfold leaves at hleaves
                split at hleaves
                · next heq => exact ⟨_, congrArg Prod.fst heq, eq_of_beq hleaves⟩
                · cases hleaves
              subst hn
              rw [hlast] at hthere
              exact absurd (Function.update_self ..) hthere
          | false =>
              have hquiet : isQuiet name (e, ((start.actAll run).act e).2) = true := by
                simp [isQuiet, hmarks, hleaves]
              rw [hlast, readers_of_quiet hquiet] at hthere
              obtain ⟨first, mark, later, rfl, hmark, hlater⟩ := ih hthere
              refine ⟨first, mark, later ++ [e], by simp, hmark, ?_⟩
              have hstate : ((start.actAll first).act mark).1.actAll later =
                  start.actAll (first ++ mark :: later) :=
                (start.actAll_append first (mark :: later)).symm
              rw [trace_append, hstate]
              intro entry hentry
              rcases List.mem_append.mp hentry with hold | hnew
              · exact hlater entry hold
              · obtain rfl := List.mem_singleton.mp hnew
                exact hquiet

/-! ### Answers -/

/-- A subscription sees what the slot held at its mark, and can look at what it holds now. Asked for
a change it is given what the slot holds now if there was news since the mark, and nothing if there
was none. -/
theorem answers_of_marked {before : Publication α} {e : Event α} {later : List (Event α)}
    (hmark : marks name (e, (before.act e).2) = true)
    (hquiet : ∀ entry ∈ (before.act e).1.trace later, isQuiet name entry = true) :
    let marked := (before.act e).1
    let now := marked.actAll later
    now.act (.call name .current) = (now, .snapshot before.slot.value) ∧
      now.act (.call name .latest) = (now, .snapshot now.slot.value) ∧
      now.act (.call name .changed) =
        if marked.changes later = 0 then (now, .next (if now.gone then .ended else .pending))
        else (now.put name (some (.start now.slot)), .next (.snapshot now.slot.value)) := by
  intro marked now
  obtain ⟨hreader, hslot, -⟩ := readers_of_marked hmark
  have hnow : now.readers name = some (.start before.slot) :=
    (readers_actAll_of_quiet hquiet).trans hreader
  have hseen : now.slot.seenBy before.slot.subscribe = decide (marked.changes later = 0) := by
    rw [← hslot]
    exact marked.seenBy_actAll later
  refine ⟨by simp [act, call, hnow, Subscription.start], by simp [act, call, hnow], ?_⟩
  simp only [act, call, hnow, Subscription.changed_eq, Subscription.start, hseen,
    decide_eq_true_eq]
  split
  · -- Nothing is missing, so the subscription is put back as it was.
    have hsame : now.put name (some ⟨before.slot.value, before.slot.subscribe⟩) = now := by
      rw [put, Function.update_eq_self_iff.mpr hnow.symm]
    rw [hsame]
  · rfl

/-! ### The calls of others -/

/-- The event is no call by another name. -/
def Event.isFor (name : String) : Event α → Bool
  | .call n _ => n == name
  | _ => true

/-- The two look the same to the subscription of a name. -/
structure Agree (name : String) (p q : Publication α) : Prop where
  slot : p.slot = q.slot
  gone : p.gone = q.gone
  reader : p.readers name = q.readers name

theorem Agree.act {q : Publication α} (h : Agree name p q) {e : Event α}
    (he : e.isFor name = true) :
    Agree name (p.act e).1 (q.act e).1 ∧ (p.act e).2 = (q.act e).2 := by
  obtain ⟨hslot, hgone, hreader⟩ := h
  cases e with
  | drop => exact ⟨⟨hslot, rfl, hreader⟩, rfl⟩
  | write w =>
      refine ⟨?_, rfl⟩
      simp only [Publication.act, hslot, hgone]
      split
      · exact ⟨hslot, hgone, hreader⟩
      · exact ⟨rfl, rfl, hreader⟩
  | call n c =>
      obtain rfl : n = name := eq_of_beq he
      have hput : ∀ f, Agree n (p.put n f) (q.put n f) :=
        fun f => ⟨hslot, hgone, by simp [put]⟩
      cases c with
      | subscribe =>
          simp only [Publication.act, call, hslot, hgone]
          split
          · exact ⟨⟨hslot, hgone, hreader⟩, rfl⟩
          · exact ⟨hput _, rfl⟩
      | leave => exact ⟨hput none, rfl⟩
      | current | latest =>
          simp only [Publication.act, call, hslot, hreader]
          split <;> exact ⟨⟨hslot, hgone, hreader⟩, rfl⟩
      | changed =>
          simp only [Publication.act, call, hslot, hgone, hreader]
          split
          · exact ⟨hput _, rfl⟩
          · exact ⟨⟨hslot, hgone, hreader⟩, rfl⟩

/-- A call by another name leaves everything as it looked. -/
theorem agree_act_of_other {e : Event α} (he : e.isFor name = false) :
    Agree name (p.act e).1 p := by
  cases e with
  | write w | drop => cases he
  | call n c =>
      have hquiet : isQuiet name (.call n c, (p.call n c).2) = true := by
        have hn : (n == name) = false := he
        unfold isQuiet marks leaves
        cases c <;> split <;> simp_all
      obtain ⟨hslot, hgone⟩ := p.slot_call n c
      exact ⟨hslot, hgone, readers_of_quiet hquiet⟩

/-- Whatever others call for, the subscription of a name gets the same replies. -/
theorem trace_filter {q : Publication α} (h : Agree name p q) (events : List (Event α)) :
    (p.trace events).filter (·.1.isFor name) = q.trace (events.filter (·.isFor name)) := by
  induction events generalizing p q with
  | nil => rfl
  | cons e rest ih =>
      cases he : e.isFor name with
      | true =>
          obtain ⟨hagree, hreply⟩ := h.act he
          simp only [trace, List.filter_cons, he, if_true, hreply, ih hagree]
      | false =>
          have hskip : Agree name (p.act e).1 q := by
            obtain ⟨hslot, hgone, hreader⟩ := agree_act_of_other (p := p) he
            exact ⟨hslot.trans h.slot, hgone.trans h.gone, hreader.trans h.reader⟩
          simp only [trace, List.filter_cons, he, Bool.false_eq_true, if_false, ih hskip]

end Publication

end BrokerMonitor
