import Mathlib.Data.List.Induction
import Mathlib.Tactic.Lemma
import TenantOverlay.Operator.Controller

/-!
# The life of a controller

A controller is in one of five phases, and `Phase.next` says which phase an event leads to. In three of them it
takes its loop to be running just when the loop is at work. The other two come after a crash: nobody clears the
mark that the loop is running, and the stop that reports the crash leaves it too. Only a further stop clears it
(`Controller.CrashStands`). `controller_life` is what this makes of starts, stops and the mark after any events.
-/

namespace TenantOverlay

namespace Controller

section Steps

variable {c : Controller}

/-- A loop that ends is not taken to be running for that. -/
lemma isRunning_of_loopEnds {how : LoopEnd} (h : (c.loopEnds how).1.isRunning = true) : c.isRunning = true := by
  unfold loopEnds at h
  split at h
  · cases how with
    | exit => cases h
    | crash => exact h
  · exact h

/-- After a stop that succeeds the loop is not taken to be running, and after one that fails only if it was so
before. -/
lemma stop_cases (c : Controller) (windDown : LoopEnd) :
    (c.stop windDown).result = .ok () ∧ (c.stop windDown).state.isRunning = false ∨
      (∃ e, (c.stop windDown).result = .error e) ∧
        ((c.stop windDown).state.isRunning = true → c.isRunning = true) := by
  have running : (c.loopEnds windDown).1.isRunning = true → c.isRunning = true := isRunning_of_loopEnds
  unfold stop
  generalize c.loopEnds windDown = ended at running
  obtain ⟨c', notices⟩ := ended
  dsimp only
  split
  · exact .inr ⟨⟨_, rfl⟩, running⟩
  · exact .inl ⟨rfl, rfl⟩

/-- The controller says nothing of metrics servers. -/
lemma serverEnded_notMem_stop {windDown : LoopEnd} {how : ServerEnd} :
    .serverEnded how ∉ (c.stop windDown).notices := by
  have quiet : .serverEnded how ∉ (c.loopEnds windDown).2 := by
    unfold loopEnds
    split
    · cases windDown <;> simp
    · exact List.not_mem_nil
  unfold stop
  generalize c.loopEnds windDown = ended at quiet
  obtain ⟨c', notices⟩ := ended
  dsimp only
  split
  · exact quiet
  · simpa using quiet

/-- A start is refused when the loop is taken to be running, and then it changes nothing. -/
lemma start_cases (c : Controller) :
    c.isRunning = true ∧ c.start.result = .error .alreadyRunning ∧ c.start.state = c ∨
      c.isRunning = false ∧ c.start.result = .ok () ∧ c.start.state.isRunning = true := by
  unfold start
  split
  · exact .inl ⟨‹_›, rfl, rfl⟩
  · exact .inr ⟨eq_false_of_ne_true ‹_›, rfl, rfl⟩

end Steps

/-- What happens to a controller. -/
inductive Event where
  | start
  | stop (windDown : LoopEnd)
  /-- Its loop comes to an end, if it is at work. -/
  | ends (how : LoopEnd)
  deriving DecidableEq, Repr

/-- The controller after an event. -/
def after (c : Controller) : Event → Controller
  | .start => c.start.state
  | .stop windDown => (c.stop windDown).state
  | .ends how => (c.loopEnds how).1

/-- A controller that has never been started. -/
def fresh (selector : String) : Controller := { selector := selector }

/-- A controller to which some events have happened since it was made. -/
def lived (selector : String) (events : List Event) : Controller := events.foldl after (fresh selector)

lemma lived_concat (selector : String) (events : List Event) (e : Event) :
    lived selector (events ++ [e]) = (lived selector events).after e := by
  unfold lived
  rw [List.foldl_append]
  rfl

/-- An event in which a loop that is at work crashes, by itself or when it is asked to end. -/
def Crashes (c : Controller) (e : Event) : Prop := c.isAlive = true ∧ (e = .ends .crash ∨ e = .stop .crash)

/-- A stop that succeeds. -/
def Stops (c : Controller) (e : Event) : Prop := ∃ windDown, e = .stop windDown ∧ (c.stop windDown).result = .ok ()

/-- A loop has crashed, and no stop since then has succeeded. -/
inductive CrashStands (selector : String) : List Event → Prop
  | crash {events : List Event} {e : Event} :
    (lived selector events).Crashes e → CrashStands selector (events ++ [e])
  | later {events : List Event} {e : Event} :
    CrashStands selector events → ¬ (lived selector events).Stops e → CrashStands selector (events ++ [e])

variable {selector : String} {events : List Event} {e : Event}

/-- Where a controller stands. -/
inductive Phase where
  | idle
  | working
  | exited
  | crashed
  /-- A crash has been reported by a stop. -/
  | reported
  deriving DecidableEq, Repr

namespace Phase

/-- The controller in a phase. -/
def controller (selector : String) : Phase → Controller
  | idle => ⟨selector, false, none⟩
  | working => ⟨selector, true, some .alive⟩
  | exited => ⟨selector, false, some (.ended .exit)⟩
  | crashed => ⟨selector, true, some (.ended .crash)⟩
  | reported => ⟨selector, true, none⟩

/-- The phase after an event. -/
def next : Phase → Event → Phase
  | idle, .start | exited, .start => working
  | idle, .ends _ | idle, .stop _ | exited, .stop _ | reported, .stop _ | working, .stop .exit => idle
  | working, .start => working
  | working, .ends .exit | exited, .ends _ => exited
  | working, .ends .crash | crashed, .start | crashed, .ends _ => crashed
  | working, .stop .crash | crashed, .stop _ | reported, .start | reported, .ends _ => reported

/-- The phases after a crash. -/
def isBroken : Phase → Bool
  | crashed | reported => true
  | idle | working | exited => false

/-- What an event does to a controller. -/
lemma after_controller (p : Phase) (e : Event) :
    (p.controller selector).after e = (p.next e).controller selector := by
  cases p <;> rcases e with _ | (_ | _) | (_ | _) <;> rfl

/-- A stop succeeds just when it leads to a controller that has nothing to do. -/
lemma stop_eq_ok_iff (p : Phase) (windDown : LoopEnd) :
    ((p.controller selector).stop windDown).result = .ok () ↔ p.next (.stop windDown) = .idle := by
  cases p <;> cases windDown <;> simp [controller, next, stop, loopEnds, isAlive]

lemma crashes_iff (p : Phase) (e : Event) :
    (p.controller selector).Crashes e ↔ p = .working ∧ (e = .ends .crash ∨ e = .stop .crash) := by
  refine and_congr_left fun _ => ?_
  cases p <;> simp [controller, isAlive]

/-- An event leads to a phase after a crash when it is one, or leaves such a phase as it is. -/
lemma isBroken_next_iff (p : Phase) (e : Event) :
    (p.next e).isBroken = true ↔
      (p.controller selector).Crashes e ∨ p.isBroken = true ∧ ¬ (p.controller selector).Stops e := by
  rw [crashes_iff]
  unfold Stops
  simp only [stop_eq_ok_iff]
  cases p <;> rcases e with _ | (_ | _) | (_ | _) <;> simp [next, isBroken]

/-- The phase after some events. -/
def after (events : List Event) : Phase := events.foldl next idle

lemma after_concat (events : List Event) (e : Event) : after (events ++ [e]) = (after events).next e := by
  unfold after
  rw [List.foldl_append]
  rfl

end Phase

/-- The events that have happened tell the phase that a controller is in. -/
theorem lived_eq (selector : String) (events : List Event) :
    lived selector events = (Phase.after events).controller selector := by
  induction events using List.reverseRecOn with
  | nil => rfl
  | append_singleton events e ih => rw [lived_concat, ih, Phase.after_controller, Phase.after_concat]

theorem crashStands_iff : CrashStands selector events ↔ (Phase.after events).isBroken = true := by
  constructor
  · intro stands
    induction stands with
    | @crash events e crash =>
      rw [lived_eq] at crash
      rw [Phase.after_concat, @Phase.isBroken_next_iff selector]
      exact .inl crash
    | @later events e _ lasts ih =>
      rw [lived_eq] at lasts
      rw [Phase.after_concat, Phase.isBroken_next_iff]
      exact .inr ⟨ih, lasts⟩
  · intro broken
    induction events using List.reverseRecOn with
    | nil => cases broken
    | append_singleton events e ih =>
      rw [Phase.after_concat, Phase.isBroken_next_iff, ← lived_eq] at broken
      rcases broken with crash | ⟨broken, lasts⟩
      · exact .crash crash
      · exact .later (ih broken) lasts

/-- What can be said of a controller after some events. -/
structure Life (selector : String) (events : List Event) : Prop where
  isRunning_iff : (lived selector events).isRunning = true ↔
    (lived selector events).isAlive = true ∨ CrashStands selector events
  start_iff : (lived selector events).start.result = .ok () ↔
    (lived selector events).isAlive = false ∧ ¬ CrashStands selector events
  started : (lived selector events).start.result = .ok () →
    (lived selector events).start.state.isAlive = true
  stopped (windDown : LoopEnd) : ((lived selector events).stop windDown).state.isAlive = false
  stop_iff (windDown : LoopEnd) : ((lived selector events).stop windDown).result = .ok () ↔
    ¬ CrashStands selector (events ++ [.stop windDown])
  /-- After a stop that succeeds the controller can be started again. -/
  settled (windDown : LoopEnd) : ((lived selector events).stop windDown).result = .ok () →
    ((lived selector events).stop windDown).state.isRunning = false ∧
      ((lived selector events).stop windDown).state.start.result = .ok ()
  /-- After a stop that fails it cannot, until it has been stopped once more, which succeeds. -/
  unsettled (windDown again : LoopEnd) : ((lived selector events).stop windDown).result ≠ .ok () →
    ((lived selector events).stop windDown).state.isRunning = true ∧
      ((lived selector events).stop windDown).state.start.result = .error .alreadyRunning ∧
      (((lived selector events).stop windDown).state.stop again).result = .ok ()

end Controller

open Controller

/-- Whatever happens to a controller, it takes its loop to be running just when the loop is at work or a crash
stands, and can be started just when neither is so. A stop leaves no loop at work. It succeeds just when no
crash stands after it, and then the controller can be started; if it fails, another stop is needed before. -/
theorem controller_life (selector : String) (events : List Event) : Life selector events := by
  constructor
  all_goals simp only [crashStands_iff, Phase.after_concat, lived_eq]
  all_goals generalize Phase.after events = p
  · cases p <;> simp [Phase.controller, Phase.isBroken, isAlive]
  · cases p <;> simp [Phase.controller, Phase.isBroken, isAlive, start]
  · cases p <;> simp [Phase.controller, isAlive, start]
  · intro windDown
    cases p <;> cases windDown <;> rfl
  · intro windDown
    rw [Phase.stop_eq_ok_iff]
    cases p <;> cases windDown <;> simp [Phase.next, Phase.isBroken]
  · intro windDown
    cases p <;> cases windDown <;> simp [Phase.controller, stop, loopEnds, isAlive, start]
  · intro windDown again
    cases p <;> cases windDown <;> simp [Phase.controller, stop, loopEnds, isAlive, start]

/-- A loop that has crashed is taken to be running, so that it cannot be started again; a stop that reports a
crash changes nothing about that. -/
theorem crashed_loop_taken_for_running :
    (lived "" [.start, .ends .crash]).isAlive = false ∧
    (lived "" [.start, .ends .crash]).isRunning = true ∧
    (lived "" [.start, .ends .crash]).start.result = .error .alreadyRunning ∧
    ((lived "" [.start]).stop .crash).result = .error .loopCrashed ∧
    ((lived "" [.start]).stop .crash).state.isAlive = false ∧
    ((lived "" [.start]).stop .crash).state.isRunning = true ∧
    ((lived "" [.start]).stop .crash).state.start.result = .error .alreadyRunning :=
  ⟨rfl, rfl, rfl, rfl, rfl, rfl, rfl⟩

end TenantOverlay
