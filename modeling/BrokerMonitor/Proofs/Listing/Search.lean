import BrokerMonitor.Command.Wait
import BrokerMonitor.Proofs.Listing.Publication
/-!
# Searching a slot for a listing

A search looks at a slot until it sees a listing of its generation. Between two looks it waits for a
change. A look uses up no news, only the end of a wait does, so that a write between a look and the
wait after it ends the wait at once. Others may write to the slot at any point, also between the end
of a wait and the next look.

`Pursuit.Alert` is what every move preserves: a search that would go on waiting has no listing
before it. So a listing that stays in the slot is found (`Pursuit.found_of_alert`), while one that
is gone again when the search looks is not. A party that looks at some states, as `Cell.await` has
it, is a search that makes its turns in each of them (`Search.found?_attend`).
-/

namespace BrokerMonitor

/-- How far a search for a listing is. -/
inductive Search (α : Type) where
  /-- It is about to look. -/
  | looking (f : Subscription α)
  /-- It has looked in vain and waits for a change. -/
  | waiting (f : Subscription α)
  | found (s : Snapshot α)
  /-- There will be no change any more. -/
  | ended

namespace Search

variable {α : Type} {g : Generation} {slot : Slot α}

/-- The next turn of a search for a listing of generation `g`; `gone` says that the slot's store no
longer exists. -/
def turn (g : Generation) (slot : Slot α) (gone : Bool) : Search α → Search α
  | looking f => if slot.value.isListingOf g then found slot.value else waiting f
  | waiting f =>
    match f.changed slot gone with
    | (f, .snapshot _) => looking f
    | (f, .pending) => waiting f
    | (_, .ended) => ended
  | found s => found s
  | ended => ended

def found? : Search α → Option (Snapshot α)
  | found s => some s
  | _ => none

theorem turn_looking (g : Generation) (slot : Slot α) (gone : Bool) (f : Subscription α) :
    (looking f).turn g slot gone =
      if slot.value.isListingOf g then found slot.value else waiting f := rfl

theorem turn_waiting (g : Generation) (slot : Slot α) (gone : Bool) (f : Subscription α) :
    (waiting f).turn g slot gone =
      if slot.seenBy f.receiver then (if gone then ended else waiting f)
      else looking (.start slot) := by
  rw [turn, Subscription.changed_eq]
  cases slot.seenBy f.receiver <;> cases gone <;> rfl

/-! ### Turns in a state that stays -/

theorem iterate_turn_found (s : Snapshot α) (n : Nat) :
    (turn g slot false)^[n] (found s) = found s :=
  Function.iterate_fixed rfl n

/-- A search that waits comes back to waiting, unless it sees a listing that is news. -/
theorem iterate_turn_waiting {n : Nat} (hn : 2 ≤ n) (f : Subscription α) :
    (turn g slot false)^[n] (waiting f) =
      if slot.seenBy f.receiver then waiting f
      else if slot.value.isListingOf g then found slot.value else waiting (.start slot) := by
  obtain ⟨n, rfl⟩ := Nat.exists_eq_add_of_le' hn
  cases hseen : slot.seenBy f.receiver with
  | true =>
      have hfixed : (waiting f).turn g slot false = waiting f := by
        rw [turn_waiting, hseen]
        rfl
      exact Function.iterate_fixed hfixed _
  | false =>
      have hfirst : (waiting f).turn g slot false = looking (.start slot) := by
        rw [turn_waiting, hseen]
        rfl
      rw [Function.iterate_add_apply, Function.iterate_succ_apply, hfirst, Function.iterate_one,
        turn_looking]
      cases hlisting : slot.value.isListingOf g with
      | true => exact iterate_turn_found _ n
      | false =>
          -- It has seen the slot as it is, so it is not woken up again.
          have hfixed : (waiting (.start slot)).turn g slot false = waiting (.start slot) := by
            rw [turn_waiting, Subscription.start, Cell.seenBy_subscribe]
            rfl
          exact Function.iterate_fixed hfixed n

theorem iterate_turn_looking {n : Nat} (hn : 3 ≤ n) (f : Subscription α) :
    (turn g slot false)^[n] (looking f) =
      if slot.value.isListingOf g then found slot.value
      else (turn g slot false)^[n] (waiting f) := by
  obtain ⟨n, rfl⟩ := Nat.exists_eq_add_of_le' hn
  cases hlisting : slot.value.isListingOf g with
  | true =>
      rw [Function.iterate_succ_apply, turn_looking, hlisting]
      exact iterate_turn_found _ _
  | false =>
      rw [Function.iterate_succ_apply, turn_looking, hlisting, if_neg Bool.false_ne_true,
        if_neg Bool.false_ne_true, iterate_turn_waiting (Nat.le_add_left 2 n),
        iterate_turn_waiting (Nat.le_add_left 2 (n + 1))]

/-! ### The search of a party that looks at some states -/

section States

variable {σ : Type} (cell : σ → Slot α) {n : Nat}

/-- The turns of a search in some states, `n` in each. -/
def attend (g : Generation) (n : Nat) (states : List σ) (search : Search α) : Search α :=
  states.foldl (fun search state => (turn g (cell state) false)^[n] search) search

theorem attend_cons (g : Generation) (n : Nat) (state : σ) (later : List σ) (search : Search α) :
    attend cell g n (state :: later) search =
      attend cell g n later ((turn g (cell state) false)^[n] search) := rfl

theorem attend_found (s : Snapshot α) (states : List σ) :
    attend cell g n states (found s) = found s := by
  induction states with
  | nil => rfl
  | cons state later ih => rw [attend_cons, iterate_turn_found, ih]

/-- A search that waits finds what a party sees that looks at what is new. -/
theorem found?_attend_waiting (hn : 2 ≤ n) (states : List σ) (f : Subscription α) :
    (attend cell g n states (waiting f)).found? =
      (Cell.awaitChange cell (·.isListingOf g) f.receiver states).map (cell · |>.value) := by
  induction states generalizing f with
  | nil => rfl
  | cons state later ih =>
      rw [attend_cons, iterate_turn_waiting hn, Cell.awaitChange, Cell.poll]
      cases hseen : (cell state).seenBy f.receiver with
      | true => exact ih f
      | false =>
          cases hlisting : (cell state).value.isListingOf g with
          | true => simp [attend_found, hlisting, found?]
          | false =>
              simp only [Bool.false_eq_true, if_false, hlisting]
              exact ih (.start (cell state))

/-- A search that has enough turns in each state finds what a party sees that waits for the
listing. -/
theorem found?_attend (hn : 3 ≤ n) (states : List σ) (f : Subscription α) :
    (attend cell g n states (looking f)).found? =
      (Cell.await cell (·.isListingOf g) f.receiver states).map (cell · |>.value) := by
  cases states with
  | nil => rfl
  | cons state later =>
      rw [attend_cons, iterate_turn_looking hn, Cell.await]
      cases hlisting : (cell state).value.isListingOf g with
      | true => simp [attend_found, found?]
      | false => exact found?_attend_waiting cell (by omega) (state :: later) f

end States

end Search

/-! ### A search among others -/

namespace Publication

variable {α : Type}

/-- A publication of a new slot, which nobody follows yet. -/
def new : Publication α where
  slot := .initial

/-- What is written to the slot by some events, before its store is gone. -/
def written : List (Event α) → List (Slot.Write α)
  | [] => []
  | .write w :: rest => w :: written rest
  | .drop :: _ => []
  | .call _ _ :: rest => written rest

theorem slot_actAll {p : Publication α} (h : p.gone = false) (events : List (Event α)) :
    (p.actAll events).slot = p.slot.writeAll (written events) := by
  induction events generalizing p with
  | nil => rfl
  | cons e rest ih =>
      cases e with
      | write w =>
          have hact : (p.act (.write w)).1 = { p with slot := p.slot.write w } :=
            if_neg (by simp [h])
          rw [actAll_cons, hact]
          exact ih h
      | drop => exact (actAll_of_gone (p := (p.act .drop).1) rfl rest).2
      | call name c =>
          obtain ⟨hslot, hgone⟩ := p.slot_call name c
          refine (ih (hgone.trans h)).trans ?_
          exact congrArg (Slot.writeAll · (written rest)) hslot

end Publication

/-- A search for a listing in the slot of a publication. -/
structure Pursuit (α : Type) where
  site : Publication α
  search : Search α

namespace Pursuit

variable {α : Type} {g : Generation} {q : Pursuit α}

/-- What happens next: something to the publication, or the search has a turn. -/
inductive Move (α : Type) where
  | event (e : Publication.Event α)
  | turn

/-- A search starts with a subscription. -/
def start (site : Publication α) : Pursuit α := ⟨site, .looking (.start site.slot)⟩

def act (g : Generation) (q : Pursuit α) : Move α → Pursuit α
  | .event e => { q with site := (q.site.act e).1 }
  | .turn => { q with search := q.search.turn g q.site.slot q.site.gone }

def actAll (g : Generation) (q : Pursuit α) (moves : List (Move α)) : Pursuit α :=
  moves.foldl (act g) q

/-- What the search sees in a move, if it looks. -/
def sight? (q : Pursuit α) : Move α → Option (Snapshot α)
  | .event _ => none
  | .turn =>
    match q.search with
    | .looking _ => some q.site.slot.value
    | _ => none

/-- All that the search sees. -/
def sights (g : Generation) (q : Pursuit α) : List (Move α) → List (Snapshot α)
  | [] => []
  | move :: rest => (q.sight? move).toList ++ (q.act g move).sights g rest

/-- What happens to the publication. -/
def events (moves : List (Move α)) : List (Publication.Event α) :=
  moves.filterMap fun
    | .event e => some e
    | .turn => none

@[simp] theorem actAll_cons (g : Generation) (q : Pursuit α) (move : Move α)
    (rest : List (Move α)) : q.actAll g (move :: rest) = (q.act g move).actAll g rest := rfl

theorem site_actAll (g : Generation) (q : Pursuit α) (moves : List (Move α)) :
    (q.actAll g moves).site = q.site.actAll (events moves) := by
  induction moves generalizing q with
  | nil => rfl
  | cons move rest ih =>
      rw [actAll_cons, ih]
      cases move <;> rfl

/-- Nothing but its own turns gets a search further. -/
theorem search_actAll_of_no_turn (g : Generation) (q : Pursuit α) {moves : List (Move α)}
    (h : .turn ∉ moves) : (q.actAll g moves).search = q.search := by
  induction moves generalizing q with
  | nil => rfl
  | cons move rest ih =>
      obtain ⟨hmove, hrest⟩ := List.ne_and_not_mem_of_not_mem_cons h
      cases move with
      | event e => exact ih _ hrest
      | turn => exact absurd rfl hmove

/-! ### What it finds -/

theorem found?_act (g : Generation) (q : Pursuit α) (move : Move α) :
    (q.act g move).search.found? =
      q.search.found?.or ((q.sight? move).toList.find? (·.isListingOf g)) := by
  obtain ⟨site, search⟩ := q
  cases move with
  | event e => cases search <;> rfl
  | turn =>
      cases search with
      | found | ended => rfl
      | looking f =>
          simp only [act, Search.turn_looking, sight?]
          cases hlisting : site.slot.value.isListingOf g <;>
            simp [Search.found?, hlisting]
      | waiting f =>
          simp only [act, Search.turn_waiting, sight?]
          cases site.slot.seenBy f.receiver <;> cases site.gone <;> rfl

/-- The search finds the first listing of its generation that it sees. -/
theorem found?_actAll (g : Generation) (q : Pursuit α) (moves : List (Move α)) :
    (q.actAll g moves).search.found? =
      q.search.found?.or ((q.sights g moves).find? (·.isListingOf g)) := by
  induction moves generalizing q with
  | nil => exact Option.or_none.symm
  | cons move rest ih =>
      rw [actAll_cons, ih, found?_act, Option.or_assoc, sights, List.find?_append]

/-- A listing that came and went between two looks is not found. -/
example :
    let move (w : Slot.Write Nat) : Move Nat := .event (.write w)
    ((start Publication.new).actAll ⟨1⟩ [move (.reset ⟨1⟩), .turn, move (.replace ⟨1⟩ [7]), .turn,
      move (.reset ⟨2⟩), .turn]).search.found? = none := by rfl

/-- What the search sees is in the slot when it looks. -/
theorem exists_of_mem_sights {moves : List (Move α)} {s : Snapshot α}
    (h : s ∈ q.sights g moves) :
    ∃ earlier later, moves = earlier ++ .turn :: later ∧
      (q.actAll g earlier).site.slot.value = s := by
  induction moves generalizing q with
  | nil => cases h
  | cons move rest ih =>
      rcases List.mem_append.mp h with hnow | hrest
      · rw [Option.mem_toList] at hnow
        cases move with
        | event e => cases hnow
        | turn =>
            simp only [sight?] at hnow
            split at hnow
            · exact ⟨[], rest, rfl, Option.some.inj hnow⟩
            · cases hnow
      · obtain ⟨earlier, later, rfl, hslot⟩ := ih hrest
        exact ⟨move :: earlier, later, rfl, hslot⟩

/-! ### What it cannot miss -/

/-- The search has seen nothing that is still to come, and it is awake where there is something to
find: if it would go on waiting, or has given up, the slot has no listing of its generation. -/
def Alert (g : Generation) (q : Pursuit α) : Prop :=
  match q.search with
  | .looking f => f.receiver.seen ≤ q.site.slot.version
  | .waiting f => f.receiver.seen ≤ q.site.slot.version ∧
    (f.receiver.seen = q.site.slot.version → q.site.slot.value.isListingOf g = false)
  | .found _ => True
  | .ended => q.site.gone = true ∧ q.site.slot.value.isListingOf g = false

namespace Alert

theorem start (g : Generation) (site : Publication α) : (Pursuit.start site).Alert g :=
  Nat.le_refl site.slot.version

/-- Whatever happens to the publication, news wakes up who waits. -/
theorem event (h : q.Alert g) (e : Publication.Event α) : (q.act g (.event e)).Alert g := by
  obtain ⟨site, search⟩ := q
  have hversion := site.version_act e
  have hquiet : site.isNews e = false → (site.act e).1.slot = site.slot :=
    Publication.slot_act_of_not_news
  cases search with
  | found s => trivial
  | looking f =>
      have hseen : f.receiver.seen ≤ site.slot.version := h
      change f.receiver.seen ≤ (site.act e).1.slot.version
      omega
  | waiting f =>
      obtain ⟨hseen, hnothing⟩ : f.receiver.seen ≤ site.slot.version ∧
        (f.receiver.seen = site.slot.version → site.slot.value.isListingOf g = false) := h
      change f.receiver.seen ≤ (site.act e).1.slot.version ∧
        (f.receiver.seen = (site.act e).1.slot.version →
          (site.act e).1.slot.value.isListingOf g = false)
      refine ⟨by omega, fun hcurrent => ?_⟩
      cases hnews : site.isNews e with
      | true =>
          rw [hnews, Bool.toNat_true] at hversion
          omega
      | false =>
          rw [hquiet hnews] at hcurrent ⊢
          exact hnothing hcurrent
  | ended =>
      obtain ⟨hgone, hnothing⟩ : site.gone = true ∧ site.slot.value.isListingOf g = false := h
      have hstill := Publication.actAll_of_gone hgone [e]
      change (site.act e).1.gone = true ∧ (site.act e).1.slot.value.isListingOf g = false
      exact ⟨hstill.1, (congrArg (·.value.isListingOf g) hstill.2).trans hnothing⟩

/-- It goes to wait only if it has seen that there is nothing to find. -/
theorem turn (h : q.Alert g) : (q.act g .turn).Alert g := by
  obtain ⟨site, search⟩ := q
  cases search with
  | found s => trivial
  | ended => exact h
  | looking f =>
      have hseen : f.receiver.seen ≤ site.slot.version := h
      simp only [act, Search.turn_looking]
      cases hlisting : site.slot.value.isListingOf g with
      | true => trivial
      | false => exact ⟨hseen, fun _ => hlisting⟩
  | waiting f =>
      obtain ⟨hseen, hnothing⟩ : f.receiver.seen ≤ site.slot.version ∧
        (f.receiver.seen = site.slot.version → site.slot.value.isListingOf g = false) := h
      simp only [act, Search.turn_waiting]
      cases hcurrent : site.slot.seenBy f.receiver with
      | false => exact Nat.le_refl site.slot.version
      | true =>
          cases hgone : site.gone with
          | true => exact ⟨hgone, hnothing (eq_of_beq hcurrent)⟩
          | false => exact ⟨hseen, hnothing⟩

theorem actAll (h : q.Alert g) (moves : List (Move α)) : (q.actAll g moves).Alert g := by
  induction moves generalizing q with
  | nil => exact h
  | cons move rest ih =>
      cases move with
      | event e => exact ih (h.event e)
      | turn => exact ih h.turn

end Alert

/-- A listing that is in the slot is found after two turns, if none was found before. -/
theorem found_of_alert (h : q.Alert g) (hlisting : q.site.slot.value.isListingOf g = true) :
    (q.actAll g [.turn, .turn]).search.found? = q.search.found?.or (some q.site.slot.value) := by
  obtain ⟨site, search⟩ := q
  have hlook : ∀ f, (Search.looking f).turn g site.slot site.gone = .found site.slot.value :=
    fun f => if_pos hlisting
  show ((search.turn g site.slot site.gone).turn g site.slot site.gone).found? = _
  cases search with
  | found s => rfl
  | ended => exact absurd (hlisting.symm.trans h.2) nofun
  | looking f =>
      rw [hlook]
      rfl
  | waiting f =>
      have hnews : site.slot.seenBy f.receiver = false := by
        by_contra hseen
        have hcurrent : f.receiver.seen = site.slot.version :=
          eq_of_beq (Bool.not_eq_false _ ▸ hseen)
        exact absurd (hlisting.symm.trans (h.2 hcurrent)) nofun
      rw [Search.turn_waiting, hnews, if_neg Bool.false_ne_true, hlook]
      rfl

/-- So is one that is there before the search has looked at all, without any change. -/
theorem found_of_first_look {f : Subscription α} (h : q.search = .looking f)
    (hlisting : q.site.slot.value.isListingOf g = true) :
    (q.act g .turn).search = .found q.site.slot.value := by
  rw [act, h]
  exact if_pos hlisting

end Pursuit

end BrokerMonitor
