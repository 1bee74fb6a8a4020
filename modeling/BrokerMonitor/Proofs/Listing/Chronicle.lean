import Mathlib.Data.Prod.Lex
import BrokerMonitor.Proofs.Outside
/-!
# The chronicle of a slot

Whoever writes to a slot, each of its listings is later than the one before: it counts one up, or it
starts a later generation. `Slot.Chronicle` keeps all listings that a slot has had, so that a
receiver's last seen announcement is a place in it. Asking for what is new moves a subscription on
to a later place, and what it is given is the listing at that place.
-/

namespace BrokerMonitor

namespace Snapshot

variable {α : Type} {a b : Snapshot α}

/-- A listing's stamp, its generation and its sequence, in lexicographic order. -/
def stamp (s : Snapshot α) : Nat ×ₗ Nat := toLex (s.generation.toNat, s.sequence)

theorem stamp_lt_of_generation (h : a.generation < b.generation) : a.stamp < b.stamp :=
  Prod.Lex.toLex_lt_toLex.mpr (.inl h)

theorem stamp_lt_of_sequence (hg : a.generation = b.generation) (h : a.sequence < b.sequence) :
    a.stamp < b.stamp :=
  Prod.Lex.toLex_lt_toLex.mpr (.inr ⟨congrArg Generation.toNat hg, h⟩)

theorem stamp_eq (hg : a.generation = b.generation) (h : a.sequence = b.sequence) :
    a.stamp = b.stamp := by
  rw [stamp, stamp, hg, h]

end Snapshot

namespace Slot

variable {α : Type} {slot : Slot α} {past : List (Snapshot α)}

/-- `past` are the listings that the slot has had, the current one last. -/
structure Chronicle (slot : Slot α) (past : List (Snapshot α)) : Prop where
  length : past.length = slot.version + 1
  current : past[slot.version]? = some slot.value
  ordered : past.Pairwise (·.stamp < ·.stamp)

namespace Chronicle

theorem initial : (Slot.initial : Slot α).Chronicle [.empty .initial] where
  length := rfl
  current := rfl
  ordered := List.pairwise_singleton _ _

/-- What is later in the chronicle has the later stamp. -/
theorem stamp_lt (h : slot.Chronicle past) {i j : Nat} {a b : Snapshot α} (ha : past[i]? = some a)
    (hb : past[j]? = some b) (hij : i < j) : a.stamp < b.stamp := by
  obtain ⟨hi, rfl⟩ := List.getElem?_eq_some_iff.mp ha
  obtain ⟨hj, rfl⟩ := List.getElem?_eq_some_iff.mp hb
  exact List.pairwise_iff_getElem.mp h.ordered i j hi hj hij

/-- The stamp names the listing. -/
theorem eq_of_stamp_eq (h : slot.Chronicle past) {a b : Snapshot α} (ha : a ∈ past) (hb : b ∈ past)
    (heq : a.stamp = b.stamp) : a = b := by
  obtain ⟨i, hi⟩ := List.mem_iff_getElem?.mp ha
  obtain ⟨j, hj⟩ := List.mem_iff_getElem?.mp hb
  rcases Nat.lt_trichotomy i j with hij | rfl | hij
  · exact absurd heq (ne_of_lt (h.stamp_lt hi hj hij))
  · exact Option.some.inj (hi.symm.trans hj)
  · exact absurd heq (ne_of_gt (h.stamp_lt hj hi hij))

/-- A later listing goes behind. -/
theorem announce (h : slot.Chronicle past) {s : Snapshot α} (hlater : slot.value.stamp < s.stamp) :
    Chronicle (slot.announce s) (past ++ [s]) where
  length := by
    rw [List.length_append, h.length]
    rfl
  current := by
    show (past ++ [s])[slot.version + 1]? = some s
    rw [← h.length, List.getElem?_concat_length]
  ordered := by
    refine List.pairwise_append.mpr ⟨h.ordered, List.pairwise_singleton _ _, ?_⟩
    intro a ha b hb
    obtain rfl := List.mem_singleton.mp hb
    obtain ⟨i, hi⟩ := List.mem_iff_getElem?.mp ha
    obtain ⟨hlt, -⟩ := List.getElem?_eq_some_iff.mp hi
    rw [h.length] at hlt
    rcases Nat.lt_or_eq_of_le (Nat.le_of_lt_succ hlt) with hbefore | rfl
    · exact (h.stamp_lt hi h.current hbefore).trans hlater
    · obtain rfl := Option.some.inj (hi.symm.trans h.current)
      exact hlater

theorem reset (h : slot.Chronicle past) {g : Generation} (hg : slot.value.generation < g) :
    (slot.reset g).Chronicle (past ++ [.empty g]) :=
  h.announce (Snapshot.stamp_lt_of_generation hg)

end Chronicle

/-- Whoever delivers messages, and however many. -/
theorem Chronicle.deliver {r : Resource} {slot : Slot r.Record} {past : List (Snapshot r.Record)}
    (h : slot.Chronicle past) (g : Generation) (messages : List r.Message) :
    ∃ more, (slot.deliver g messages).Chronicle (past ++ more) := by
  by_cases hg : slot.value.generation = g
  · induction messages generalizing slot past with
    | nil => exact ⟨[], by rwa [deliver_nil, List.append_nil]⟩
    | cons m rest ih =>
        let s : Snapshot r.Record := ⟨g, r.listing m, slot.value.sequence + 1⟩
        have hlater : slot.value.stamp < s.stamp :=
          Snapshot.stamp_lt_of_sequence hg (Nat.lt_succ_self _)
        obtain ⟨more, hmore⟩ := ih (h.announce hlater) rfl
        refine ⟨s :: more, ?_⟩
        rw [deliver_cons_of_eq hg, List.append_cons]
        exact hmore
  · refine ⟨[], ?_⟩
    rwa [deliver_of_ne hg, List.append_nil]

end Slot

namespace Monitor

variable {m m' : Monitor} {r : Resource} {past : List (Snapshot r.Record)}

/-- Every step only ever adds to the chronicle of a slot. -/
theorem Step.chronicle (step : m.Step m') (hm : m.Lockstep)
    (h : Slot.Chronicle (m.store.get r) past) :
    ∃ more, Slot.Chronicle (m'.store.get r) (past ++ more) := by
  have hsame : ∃ more, Slot.Chronicle (m.store.get r) (past ++ more) :=
    ⟨[], by rwa [List.append_nil]⟩
  cases step with
  | @attach g handle hg =>
      have hlater : (m.snapshot r).generation < g := by
        have hnext := Generation.toNat_of_next? hg
        rw [hm.snapshot]
        show m.generation.toNat < g.toNat
        omega
      have hreset : (m.attach g handle).store.get r = Slot.reset (m.store.get r) g := by
        cases r <;> rfl
      rw [hreset]
      exact ⟨[.empty g], h.reset hlater⟩
  | run j =>
      cases j with
      | observer k =>
          obtain ⟨board, observers, queue, hrun, -⟩ := m.exists_run_observer_eq k
          rw [hrun]
          exact hsame
      | stream i =>
          obtain ⟨queue, hrun⟩ := m.exists_run_stream_eq i
          rw [hrun]
          refine m.runStream_elim i (fun _ => hsame) fun t ht => ?_
          by_cases hr : r = t.resource
          · subst hr
            simpa [progress, progressOf] using h.deliver t.generation (m.turn t).messages
          · simpa [progress, EachResource.get_set_of_ne _ _ hr] using hsame
  | _ => exact hsame

theorem chronicle_of_leads (hm : m.Lockstep) (hleads : m.Leads m')
    (h : Slot.Chronicle (m.store.get r) past) :
    ∃ more, Slot.Chronicle (m'.store.get r) (past ++ more) := by
  induction hleads with
  | refl => exact ⟨[], by rwa [List.append_nil]⟩
  | tail hn step ih =>
      obtain ⟨first, hfirst⟩ := ih
      obtain ⟨later, hlater⟩ := step.chronicle (hm.leads hn) hfirst
      exact ⟨first ++ later, by rwa [← List.append_assoc]⟩

end Monitor

end BrokerMonitor
