import BrokerMonitor.Proofs.Steps
/-!
# Jobs one after the other

`runAll` runs a list of jobs. `settle` is such a run, of the jobs that the queue puts forward, and
`Session.jobs` lists the jobs that an action runs. What holds of the run of one job, carried along
such a list, holds of every action that runs tasks.
-/

namespace BrokerMonitor

namespace Monitor

/-- Runs jobs one after the other. -/
def runAll (m : Monitor) (js : List Job) : Monitor := js.foldl run m

/-- The jobs that the queue puts forward, first in first out, at most `runs` of them. -/
def jobsWithin (m : Monitor) : Nat → List Job
  | 0 => []
  | runs + 1 =>
    match m.queue with
    | [] => []
    | j :: _ => j :: (m.run j).jobsWithin runs

@[simp] theorem runAll_nil (m : Monitor) : m.runAll [] = m := rfl

@[simp] theorem runAll_cons (m : Monitor) (j : Job) (js : List Job) :
    m.runAll (j :: js) = (m.run j).runAll js := rfl

theorem settleWithin_eq_runAll (m : Monitor) (runs : Nat) :
    m.settleWithin runs = m.runAll (m.jobsWithin runs) := by
  induction runs generalizing m with
  | zero => rfl
  | succ runs ih =>
      cases hqueue : m.queue with
      | nil => simp only [settleWithin, jobsWithin, hqueue, runAll_nil]
      | cons j rest => simp only [settleWithin, jobsWithin, hqueue, runAll_cons, ih]

theorem leads_runAll (m : Monitor) (js : List Job) : m.Leads (m.runAll js) := by
  induction js generalizing m with
  | nil => exact .refl
  | cons j js ih => exact .head (.run m j) (ih _)

end Monitor

/-- The action does nothing but run tasks. -/
def Action.runsTasks : Action → Bool
  | .run _ | .settle => true
  | _ => false

namespace Session

/-- The jobs that an action runs. -/
def jobs (s : Session) : Action → List Job
  | .run j => if s.monitor.isReady j then [j] else []
  | .settle => s.monitor.jobsWithin s.monitor.settleBound
  | _ => []

/-- Runs jobs one after the other. -/
def runTasks (s : Session) (js : List Job) : Session := { s with monitor := s.monitor.runAll js }

/-- An action that runs tasks is the run of its jobs. -/
theorem act_of_runsTasks (s : Session) {a : Action} (ha : a.runsTasks = true) :
    (s.act a).1 = s.runTasks (s.jobs a) := by
  cases a with
  | run j =>
      simp only [act, jobs, runTasks]
      split <;> rfl
  | settle => simp only [act, jobs, runTasks, Monitor.settle, Monitor.settleWithin_eq_runAll]
  | _ => cases ha

end Session

end BrokerMonitor
