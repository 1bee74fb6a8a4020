/-!
# Logs

A log keeps everything that was entered, and how much of it has been read. Reading gives what came
since the last reading.
-/

namespace BrokerMonitor

/-- Entries in order, of which the first `told` have been read. -/
structure Log (α : Type) where
  entries : List α := []
  told : Nat := 0
deriving DecidableEq, Repr, Inhabited

namespace Log

variable {α : Type}

def add (l : Log α) (more : List α) : Log α := { l with entries := l.entries ++ more }

/-- What came since the last reading. -/
def news (l : Log α) : List α := l.entries.drop l.told

/-- Reads the news. -/
def read (l : Log α) : Log α × List α := ({ l with told := l.entries.length }, l.news)

@[simp] theorem entries_add (l : Log α) (more : List α) :
    (l.add more).entries = l.entries ++ more := rfl

@[simp] theorem entries_read (l : Log α) : l.read.1.entries = l.entries := rfl

@[simp] theorem news_read (l : Log α) : l.read.1.news = [] := by simp [read, news]

end Log

end BrokerMonitor
