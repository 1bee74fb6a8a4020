import BrokerMonitor.Proofs.Steps
/-!
# What actions leave alone

The broker's side touches the feeds, the requests and the waiting refusal; subscribers touch the
board and the observers; and clients touch the tasks. Everything else is as it was.
-/

namespace BrokerMonitor

namespace Session

variable (s : Session)

theorem exists_actBroker_eq (a : BrokerAction) : ∃ feeds refusal requests queue names,
    (s.actBroker a).1 = { s with
      monitor := { s.monitor with feeds, refusal, requests, queue }, feeds := names } := by
  cases a with
  | offer name host r =>
      simp only [actBroker, offer]
      split <;> exact ⟨_, _, _, _, _, rfl⟩
  | send name r message =>
      simp only [actBroker]
      refine s.withNamed_elim s.feeds name _ ⟨_, _, _, _, _, rfl⟩ fun id _ => ?_
      split <;> exact ⟨_, _, _, _, _, rfl⟩
  | fail name e | isAbandoned name =>
      simp only [actBroker]
      exact s.withNamed_elim s.feeds name _ ⟨_, _, _, _, _, rfl⟩ fun _ _ => ⟨_, _, _, _, _, rfl⟩
  | close name =>
      simp only [actBroker]
      split <;> exact ⟨_, _, _, _, _, rfl⟩
  | refuse e | requests => exact ⟨_, _, _, _, _, rfl⟩

theorem exists_actSubscriber_eq (a : SubscriberAction) :
    ∃ board observers queue names watches followers,
      (s.actSubscriber a).1 = { s with
        monitor := { s.monitor with board, observers, queue }
        observers := names, watches, followers } := by
  cases a with
  | observe name | watch name | subscribe name r =>
      simp only [actSubscriber]
      split <;> exact ⟨_, _, _, _, _, _, rfl⟩
  | seen name =>
      simp only [actSubscriber]
      refine s.withNamed_elim s.observers name _ ⟨_, _, _, _, _, _, rfl⟩ fun i _ => ?_
      unfold seen
      split <;> exact ⟨_, _, _, _, _, _, rfl⟩
  | unobserve name =>
      simp only [actSubscriber]
      exact s.withNamed_elim s.observers name _ ⟨_, _, _, _, _, _, rfl⟩
        fun _ _ => ⟨_, _, _, _, _, _, rfl⟩
  | watched name =>
      simp only [actSubscriber]
      exact s.withNamed_elim s.watches name _ ⟨_, _, _, _, _, _, rfl⟩
        fun _ _ => ⟨_, _, _, _, _, _, rfl⟩
  | current name | latest name | changed name | intoStream name | next name =>
      simp only [actSubscriber]
      exact s.withNamed_elim s.followers name _ ⟨_, _, _, _, _, _, rfl⟩
        fun f _ => by cases f <;> exact ⟨_, _, _, _, _, _, rfl⟩

theorem exists_actClient_eq (a : ClientAction) : ∃ tasks queue names,
    (s.actClient a).1 = { s with
      monitor := { s.monitor with tasks, queue }, clients := names } := by
  cases a with
  | startOver name r handle =>
      simp only [actClient]
      split
      · split <;> exact ⟨_, _, _, rfl⟩
      · exact ⟨_, _, _, rfl⟩
  | startDetached name r g =>
      simp only [actClient]
      split <;> exact ⟨_, _, _, rfl⟩
  | cancel name =>
      simp only [actClient]
      exact s.withNamed_elim s.clients name _ ⟨_, _, _, rfl⟩ fun _ _ => ⟨_, _, _, rfl⟩
  | state name =>
      simp only [actClient]
      refine s.withNamed_elim s.clients name _ ⟨_, _, _, rfl⟩ fun i _ => ?_
      unfold clientState
      split <;> exact ⟨_, _, _, rfl⟩

/-- What is done about the connection opens a generation, drops the monitor, or changes at most the
waiting refusal and the handles that are kept. -/
@[elab_as_elim]
theorem actConnection_elim {motive : Session → Prop} (a : ConnectionAction)
    (kept : ∀ refusal handles, motive { s with monitor := { s.monitor with refusal }, handles })
    (attach : ∀ g h handles, s.monitor.alive = true → s.monitor.generation.next? = some g →
      (∀ k, h = some k → k.generation = g) →
      motive { s with monitor := s.monitor.attach g h, handles })
    (drop : s.monitor.alive = true → motive { s with monitor := s.monitor.drop }) :
    motive (s.actConnection a).1 := by
  have same : motive s := kept s.monitor.refusal s.handles
  cases a with
  | connect name url =>
      simp only [actConnection]
      split
      · next alive =>
          rcases s.monitor.connect_cases url with ⟨e, h⟩ | ⟨e, h⟩ | h | ⟨g, endpoint, hg, -, h⟩ <;>
            rw [connect, h]
          · exact same
          · exact kept none s.handles
          · exact same
          · exact attach g _ _ alive hg (by rintro k ⟨⟩; rfl)
      · exact same
  | shutdown =>
      simp only [actConnection]
      split
      · next alive =>
          cases hg : s.monitor.generation.next? with
          | none =>
              simp only [Monitor.shutdown?, hg]
              exact same
          | some g =>
              simp only [Monitor.shutdown?, hg]
              exact attach g none s.handles alive hg (by simp)
      · exact same
  | isSame a b =>
      simp only [actConnection]
      split <;> exact same
  | drop =>
      simp only [actConnection]
      split
      · next alive => exact drop alive
      · exact same

end Session

end BrokerMonitor
