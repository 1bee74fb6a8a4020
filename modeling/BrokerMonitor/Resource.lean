/-!
# Monitored resources

The broker lists two resources, its channels and its adapters. `ResourceMap` is a finite map from
resources, and `EachResource` holds one value per resource whose type may depend on which one it is.
Both are read in declaration order, channels first.
-/

namespace BrokerMonitor

/-- What the broker can be asked to list. -/
inductive Resource where
  | channels
  | adapters
deriving DecidableEq, Repr, Inhabited

namespace Resource

/-- Every resource, in declaration order. -/
def all : List Resource := [.channels, .adapters]

/-- The name of a resource, in output and in input. -/
def name : Resource → String
  | .channels => "channels"
  | .adapters => "adapters"

/-- The resource of a name, which has to be spelled exactly. -/
def ofName? (text : String) : Option Resource := all.find? (·.name == text)

theorem mem_all (r : Resource) : r ∈ all := by cases r <;> simp [all]

@[simp] theorem ofName?_name (r : Resource) : ofName? r.name = some r := by cases r <;> rfl

end Resource

/-- A finite map from resources; a resource may be missing. -/
structure ResourceMap (α : Type) where
  channels : Option α := none
  adapters : Option α := none
deriving DecidableEq, Repr, Inhabited

namespace ResourceMap

variable {α : Type}

def get? (m : ResourceMap α) : Resource → Option α
  | .channels => m.channels
  | .adapters => m.adapters

def insert (m : ResourceMap α) (r : Resource) (a : α) : ResourceMap α :=
  match r with
  | .channels => { m with channels := some a }
  | .adapters => { m with adapters := some a }

/-- The map that sends every resource to `a`. -/
def const (a : α) : ResourceMap α := ⟨some a, some a⟩

/-- The entries present, in declaration order. -/
def toList (m : ResourceMap α) : List (Resource × α) :=
  Resource.all.filterMap fun r => (m.get? r).map (r, ·)

/-- The values present, in declaration order. -/
def values (m : ResourceMap α) : List α := m.toList.map (·.2)

@[simp] theorem get?_const (a : α) (r : Resource) : (const a).get? r = some a := by
  cases r <;> rfl

@[simp] theorem get?_insert_self (m : ResourceMap α) (r : Resource) (a : α) :
    (m.insert r a).get? r = some a := by
  cases r <;> rfl

theorem get?_insert_of_ne (m : ResourceMap α) {r s : Resource} (a : α) (h : s ≠ r) :
    (m.insert r a).get? s = m.get? s := by
  cases r <;> cases s <;> simp_all [insert, get?]

theorem get?_insert (m : ResourceMap α) (r s : Resource) (a : α) :
    (m.insert r a).get? s = if s = r then some a else m.get? s := by
  split
  · subst s; simp
  · exact get?_insert_of_ne m a ‹_›

end ResourceMap

/-- One value per resource; its type may depend on the resource. -/
structure EachResource (F : Resource → Type) where
  channels : F .channels
  adapters : F .adapters

namespace EachResource

variable {F : Resource → Type}

def get (p : EachResource F) : (r : Resource) → F r
  | .channels => p.channels
  | .adapters => p.adapters

def set (p : EachResource F) : (r : Resource) → F r → EachResource F
  | .channels, x => { p with channels := x }
  | .adapters, x => { p with adapters := x }

def modify (p : EachResource F) (r : Resource) (f : F r → F r) : EachResource F :=
  p.set r (f (p.get r))

/-- The same construction for every resource. -/
def build (f : (r : Resource) → F r) : EachResource F := ⟨f .channels, f .adapters⟩

@[simp] theorem get_build (f : (r : Resource) → F r) (r : Resource) : (build f).get r = f r := by
  cases r <;> rfl

@[simp] theorem get_set_self (p : EachResource F) (r : Resource) (x : F r) :
    (p.set r x).get r = x := by
  cases r <;> rfl

theorem get_set_of_ne (p : EachResource F) {r s : Resource} (x : F r) (h : s ≠ r) :
    (p.set r x).get s = p.get s := by
  cases r <;> cases s <;> simp_all [set, get]

@[simp] theorem get_modify_self (p : EachResource F) (r : Resource) (f : F r → F r) :
    (p.modify r f).get r = f (p.get r) := get_set_self ..

theorem get_modify_of_ne (p : EachResource F) {r s : Resource} (f : F r → F r) (h : s ≠ r) :
    (p.modify r f).get s = p.get s := get_set_of_ne _ _ h

end EachResource

end BrokerMonitor
