/-!
# Stream status

How far one resource stream has come. The three states are ordered, a stream only moves up in them,
and each has a small number, its code.
-/

namespace BrokerMonitor

/-- How far a resource stream has come: nothing attempted, opening, or delivering. -/
inductive StreamStatus where
  | idle
  | connecting
  | streaming
deriving DecidableEq, Repr, Inhabited

namespace StreamStatus

/-- Every status, lowest first. -/
def all : List StreamStatus := [.idle, .connecting, .streaming]

/-- The status as a number, the view that its order is defined by. -/
def code : StreamStatus → UInt8
  | .idle => 0
  | .connecting => 1
  | .streaming => 2

/-- The status of a code; only 0, 1 and 2 are codes. -/
def ofCode? (code : UInt8) : Option StreamStatus := all.find? (·.code == code)

/-- The name of a status, in output and in input. -/
def name : StreamStatus → String
  | .idle => "idle"
  | .connecting => "connecting"
  | .streaming => "streaming"

def ofName? (text : String) : Option StreamStatus := all.find? (·.name == text)

/-- A stream is up once it delivers. -/
def isUp (s : StreamStatus) : Bool := s == .streaming

instance : LT StreamStatus := ⟨fun a b => a.code < b.code⟩
instance : LE StreamStatus := ⟨fun a b => a.code ≤ b.code⟩
instance (a b : StreamStatus) : Decidable (a < b) := inferInstanceAs (Decidable (a.code < b.code))
instance (a b : StreamStatus) : Decidable (a ≤ b) := inferInstanceAs (Decidable (a.code ≤ b.code))

@[simp] theorem ofCode?_code (s : StreamStatus) : ofCode? s.code = some s := by cases s <;> rfl

@[simp] theorem ofName?_name (s : StreamStatus) : ofName? s.name = some s := by cases s <;> rfl

theorem code_injective {a b : StreamStatus} (h : a.code = b.code) : a = b := by
  cases a <;> cases b <;> simp_all [code]

theorem isUp_iff (s : StreamStatus) : s.isUp = true ↔ s = .streaming := by simp [isUp]

end StreamStatus

end BrokerMonitor
