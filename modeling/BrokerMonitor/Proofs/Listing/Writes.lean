import Mathlib.Data.List.Induction
import BrokerMonitor.Proofs.Run.Turn
import BrokerMonitor.Proofs.Steps
/-!
# Writes to a slot

A slot is written to in two ways: it is reset, and a listing replaces the one in it. A listing of
another generation than the slot's is rejected and leaves no trace. Every other write is announced,
so the version counts the writes that the slot has accepted, and a slot whose version has not
changed has not changed at all.

Whatever a monitor does to a slot is a series of such writes, and a listing that a stream task puts
there is the conversion of a message.
-/

namespace BrokerMonitor

namespace Slot

variable {α : Type} {slot : Slot α}

/-- A write to a slot. -/
inductive Write (α : Type) where
  | reset (g : Generation)
  | replace (g : Generation) (records : List α)

/-- The slot after a write. A write that it rejects changes nothing. -/
def write (slot : Slot α) : Write α → Slot α
  | .reset g => slot.reset g
  | .replace g records => (slot.replace? g records).getD slot

/-- The slot accepts the write. -/
def accepts (slot : Slot α) : Write α → Bool
  | .reset _ => true
  | .replace g records => (slot.replace? g records).isSome

def writeAll (slot : Slot α) (ws : List (Write α)) : Slot α := ws.foldl write slot

/-- How many of some writes, made one after the other, the slot accepts. -/
def accepted (slot : Slot α) : List (Write α) → Nat
  | [] => 0
  | w :: ws => (slot.accepts w).toNat + (slot.write w).accepted ws

@[simp] theorem writeAll_nil (slot : Slot α) : slot.writeAll [] = slot := rfl

@[simp] theorem writeAll_cons (slot : Slot α) (w : Write α) (ws : List (Write α)) :
    slot.writeAll (w :: ws) = (slot.write w).writeAll ws := rfl

theorem writeAll_append (slot : Slot α) (first later : List (Write α)) :
    slot.writeAll (first ++ later) = (slot.writeAll first).writeAll later :=
  List.foldl_append

theorem accepted_append (slot : Slot α) (first later : List (Write α)) :
    slot.accepted (first ++ later) =
      slot.accepted first + (slot.writeAll first).accepted later := by
  induction first generalizing slot with
  | nil => simp [accepted]
  | cons w rest ih => simp only [List.cons_append, accepted, ih, writeAll_cons, Nat.add_assoc]

theorem accepts_replace (slot : Slot α) (g : Generation) (records : List α) :
    slot.accepts (.replace g records) = decide (slot.value.generation = g) := by
  rw [Bool.eq_iff_iff, decide_eq_true_iff]
  exact slot.replace?_isSome_iff g records

/-- A rejected write leaves no trace. -/
theorem write_of_rejected {w : Write α} (h : slot.accepts w = false) : slot.write w = slot := by
  cases w with
  | reset g => cases h
  | replace g records =>
      simp only [accepts, Option.isSome_eq_false_iff, Option.isNone_iff_eq_none] at h
      rw [write, h]
      rfl

/-- An accepted write is announced. -/
theorem version_write (slot : Slot α) (w : Write α) :
    (slot.write w).version = slot.version + (slot.accepts w).toNat := by
  cases haccepts : slot.accepts w with
  | false => rw [write_of_rejected haccepts]; rfl
  | true =>
      cases w with
      | reset g => rfl
      | replace g records =>
          have hg : slot.value.generation = g := by simpa [accepts_replace] using haccepts
          simp [write, replace?, hg]

/-- The version counts the accepted writes. -/
theorem version_writeAll (slot : Slot α) (ws : List (Write α)) :
    (slot.writeAll ws).version = slot.version + slot.accepted ws := by
  induction ws generalizing slot with
  | nil => rfl
  | cons w ws ih =>
      rw [writeAll_cons, ih, version_write, accepted]
      omega

/-- Where nothing was accepted nothing has changed. -/
theorem writeAll_of_accepted_eq_zero {ws : List (Write α)} (h : slot.accepted ws = 0) :
    slot.writeAll ws = slot := by
  induction ws generalizing slot with
  | nil => rfl
  | cons w ws ih =>
      have hnone : (slot.accepts w).toNat = 0 ∧ (slot.write w).accepted ws = 0 := by
        simp only [accepted] at h
        omega
      have hrejected : slot.accepts w = false := by simpa using hnone.1
      rw [writeAll_cons, ih hnone.2, write_of_rejected hrejected]

/-- The same version shows the same listing. -/
theorem writeAll_of_version_eq {ws : List (Write α)}
    (h : slot.version = (slot.writeAll ws).version) : slot.writeAll ws = slot := by
  apply writeAll_of_accepted_eq_zero
  rw [version_writeAll] at h
  omega

/-- The last write that a slot accepts, of some writes, puts a listing of generation `g` there. -/
def Delivers (slot : Slot α) (ws : List (Write α)) (g : Generation) : Prop :=
  ∃ first records later, ws = first ++ .replace g records :: later ∧
    (slot.writeAll first).accepts (.replace g records) = true ∧
    ((slot.writeAll first).write (.replace g records)).accepted later = 0 ∧
    (slot.writeAll ws).value = ⟨g, records, (slot.writeAll first).value.sequence + 1⟩

/-- A listing that a slot has after some writes is the one that it had before, if it has accepted
none of them, or one of them has put it there. -/
theorem delivers_of_isListingOf {ws : List (Write α)} {g : Generation}
    (h : (slot.writeAll ws).value.isListingOf g = true) :
    slot.accepted ws = 0 ∨ slot.Delivers ws g := by
  induction ws using List.reverseRecOn with
  | nil => exact .inl rfl
  | append_singleton ws w ih =>
      have hlast : slot.writeAll (ws ++ [w]) = (slot.writeAll ws).write w :=
        slot.writeAll_append ws [w]
      have hcount : slot.accepted (ws ++ [w]) =
          slot.accepted ws + ((slot.writeAll ws).accepts w).toNat :=
        slot.accepted_append ws [w]
      rw [hlast] at h
      cases haccepts : (slot.writeAll ws).accepts w with
      | false =>
          rw [write_of_rejected haccepts] at h hlast
          rw [hcount, haccepts]
          obtain hnone | ⟨first, records, later, rfl, haccepted, hlater, hvalue⟩ := ih h
          · exact .inl hnone
          · have hslot : ((slot.writeAll first).write (.replace g records)).writeAll later =
                slot.writeAll (first ++ .replace g records :: later) := by
              rw [writeAll_append, writeAll_cons]
            have hstill : ((slot.writeAll first).write (.replace g records)).accepted
                (later ++ [w]) = 0 := by
              rw [accepted_append, hlater, hslot, accepted, haccepts]
              rfl
            exact .inr ⟨first, records, later ++ [w], by simp, haccepted, hstill,
              by rw [hlast, hvalue]⟩
      | true =>
          cases w with
          | reset g' => simp [write] at h
          | replace g' records =>
              have hg' : (slot.writeAll ws).value.generation = g' := by
                simpa [accepts_replace] using haccepts
              have hwritten : ((slot.writeAll ws).write (.replace g' records)).value =
                  ⟨g', records, (slot.writeAll ws).value.sequence + 1⟩ := by
                simp [write, replace?, hg']
              obtain rfl : g' = g := by
                rw [hwritten] at h
                simpa [Snapshot.isListingOf] using h
              exact .inr ⟨ws, records, [], rfl, haccepts, rfl, by rw [hlast, hwritten]⟩

/-- A new slot has no listing, so that each listing in it was put there. -/
theorem delivers_initial {ws : List (Write α)} {g : Generation}
    (h : (Slot.initial.writeAll ws).value.isListingOf g = true) : Slot.initial.Delivers ws g := by
  refine (delivers_of_isListingOf h).resolve_left fun hnone => ?_
  rw [writeAll_of_accepted_eq_zero hnone, initial, Snapshot.isListingOf_empty] at h
  cases h

/-- Messages that arrive are writes. -/
theorem deliver_eq_writeAll {r : Resource} (slot : Slot r.Record) (g : Generation)
    (messages : List r.Message) :
    slot.deliver g messages = slot.writeAll (messages.map fun m => .replace g (r.listing m)) := by
  rw [deliver, writeAll, List.foldl_map]
  rfl

end Slot

namespace Monitor

variable {m m' : Monitor}

/-- The writes that a step makes to the slot of a resource: it opens a generation, or it runs a task
that takes messages. -/
inductive Writes (m m' : Monitor) : (r : Resource) → List (Slot.Write r.Record) → Prop
  | nothing (r : Resource) : Writes m m' r []
  | opens (r : Resource) (hg : m.generation.next? = some m'.generation) :
      Writes m m' r [.reset m'.generation]
  | takes {i : Nat} {t : StreamTask} (ht : m.tasks[i]? = some t) (hrun : m' = m.run (.stream i)) :
      Writes m m' t.resource ((m.turn t).messages.map fun message =>
        .replace t.generation (t.resource.listing message))

/-- Whatever a step does to a slot is a series of writes. -/
theorem Step.exists_writes (step : m.Step m') (r : Resource) :
    ∃ ws, m'.store.get r = Slot.writeAll (m.store.get r) ws ∧ Writes m m' r ws := by
  cases step with
  | @attach g handle hg =>
      refine ⟨[.reset g], ?_, .opens r hg⟩
      cases r <;> rfl
  | run j =>
      cases j with
      | observer k =>
          obtain ⟨board, observers, queue, hrun, -⟩ := m.exists_run_observer_eq k
          rw [hrun]
          exact ⟨[], rfl, .nothing r⟩
      | stream i =>
          have hstore : (m.run (.stream i)).store = (m.runStream i).store := by
            obtain ⟨queue, hrun⟩ := m.exists_run_stream_eq i
            rw [hrun]
          rw [hstore]
          refine m.runStream_elim i (fun _ => ⟨[], rfl, .nothing r⟩) fun t ht => ?_
          by_cases hr : r = t.resource
          · subst hr
            refine ⟨_, ?_, .takes ht rfl⟩
            rw [← Slot.deliver_eq_writeAll]
            exact EachResource.get_set_self _ _ _
          · exact ⟨[], EachResource.get_set_of_ne _ _ hr, .nothing r⟩
  | _ => exact ⟨[], rfl, .nothing r⟩

/-- So is whatever any number of steps do. -/
theorem exists_writeAll_of_leads (h : m.Leads m') (r : Resource) :
    ∃ ws, m'.store.get r = Slot.writeAll (m.store.get r) ws := by
  induction h with
  | refl => exact ⟨[], rfl⟩
  | tail _ step ih =>
      obtain ⟨first, hfirst⟩ := ih
      obtain ⟨later, hlater, -⟩ := step.exists_writes r
      exact ⟨first ++ later, by rw [Slot.writeAll_append, ← hfirst, hlater]⟩

end Monitor

end BrokerMonitor
