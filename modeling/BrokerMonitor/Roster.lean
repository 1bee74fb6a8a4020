/-!
# Rosters

Things known by name. A name that is given again names the new thing.
-/

namespace BrokerMonitor

/-- Named things, the latest first. -/
structure Roster (α : Type) where
  entries : List (String × α) := []
deriving Repr, Inhabited

namespace Roster

variable {α : Type}

def get? (r : Roster α) (name : String) : Option α := r.entries.lookup name

def erase (r : Roster α) (name : String) : Roster α := ⟨r.entries.filter (·.1 != name)⟩

/-- Names `a`; the name no longer means anything else. -/
def put (r : Roster α) (name : String) (a : α) : Roster α := ⟨(name, a) :: (r.erase name).entries⟩

@[simp] theorem get?_put_self (r : Roster α) (name : String) (a : α) :
    (r.put name a).get? name = some a := by
  simp [put, get?]

theorem get?_erase (r : Roster α) (name other : String) :
    (r.erase name).get? other = if other = name then none else r.get? other := by
  unfold get? erase
  induction r.entries with
  | nil => simp
  | cons e rest ih =>
      obtain ⟨key, a⟩ := e
      by_cases hkey : key = name
      · have hdrop : ((key, a) :: rest).filter (·.1 != name) = rest.filter (·.1 != name) := by
          simp [hkey]
        rw [hdrop, ih]
        split
        · rfl
        · next hother =>
            have hne : (other == key) = false := by simpa [hkey] using hother
            rw [List.lookup_cons, hne]
      · have hkeep : ((key, a) :: rest).filter (·.1 != name) =
            (key, a) :: rest.filter (·.1 != name) := by
          simp [hkey]
        rw [hkeep, List.lookup_cons, List.lookup_cons]
        cases hsame : other == key with
        | true => rw [if_neg (by simpa [eq_of_beq hsame] using hkey)]
        | false => exact ih

theorem get?_put (r : Roster α) (name other : String) (a : α) :
    (r.put name a).get? other = if other = name then some a else r.get? other := by
  split
  · next h => rw [h, get?_put_self]
  · next h =>
      have hne : (other == name) = false := by simpa using h
      have hrest := r.get?_erase name other
      rw [if_neg h] at hrest
      rw [get?, put, List.lookup_cons, hne]
      exact hrest

end Roster

end BrokerMonitor
