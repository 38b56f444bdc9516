import Mathlib.Algebra.GroupWithZero.Nat
import NetInventory.Collector.Scheduler
import NetInventory.Proofs.SortedMap

/-! Calls of collectors. A collector that is chosen is called once, however often it is named. On
demand all of them are called, as long as the scheduler runs, and it runs until it is told to stop
or to beat at an interval that no timer can be set to.
-/

namespace NetInventory

-----------------------------------------------------------------------------------------
-- Which collectors are called
-----------------------------------------------------------------------------------------

namespace CollectorRegistry

variable {κ : Type} {registry : CollectorRegistry κ}

/-- Each registered collector that is chosen is called once, with the commands, and nothing else is
called.
-/
def Calls (registry : CollectorRegistry κ) (chosen : CollectorName → Prop)
    (commands : List Command) (calls : List (CollectorCall κ)) : Prop :=
  ∃ names : List CollectorName,
    names.Nodup
    ∧ (∀ name, name ∈ names ↔ chosen name ∧ (registry.collectors.get? name).isSome)
    ∧ List.Forall₂
        (fun name call =>
          registry.collectors.get? name = some call.collector ∧ call.commands = commands)
        names calls

/-- Some names choose a collector: they have its name among them, or they choose every collector. -/
def Chosen (names : List CollectorName) (name : CollectorName) : Prop :=
  names = [] ∨ CollectorName.everyone ∈ names ∨ name ∈ names

theorem selects_iff {names : List CollectorName} {name : CollectorName}
    : (selectsEveryone names || names.contains name) = true ↔ Chosen names name := by
  simp [selectsEveryone, Chosen, or_assoc]

theorem calls_callSelected (registry : CollectorRegistry κ) (names : List CollectorName)
    (commands : List Command)
    : registry.Calls (Chosen names) commands (registry.callSelected names commands) := by
  let chosen (entry : CollectorName × κ) : Bool :=
    selectsEveryone names || names.contains entry.1
  refine ⟨(registry.collectors.toList.filter chosen).map (·.1),
    registry.collectors.keys_filter_nodup chosen, fun name => ?among, ?calls⟩
  case among =>
    simp only [chosen, List.mem_map, List.mem_filter, selects_iff, Option.isSome_iff_exists,
      SortedMap.get?_eq_some_iff, SortedMap.toList]
    constructor
    · intro among
      obtain ⟨entry, ⟨registered, named⟩, rfl⟩ := among
      exact ⟨named, entry.2, registered⟩
    · intro among
      obtain ⟨named, collector, registered⟩ := among
      exact ⟨(name, collector), ⟨registered, named⟩, rfl⟩
  case calls =>
    rw [callSelected, List.forall₂_map_left_iff, List.forall₂_map_right_iff, List.forall₂_same]
    intro entry among
    exact ⟨SortedMap.get?_eq_some_iff.mpr (List.mem_of_mem_filter among), rfl⟩

theorem calls_callAll (registry : CollectorRegistry κ) (commands : List Command)
    : registry.Calls (fun _ => True) commands (registry.callAll commands) := by
  have everyone : Chosen [CollectorName.everyone] = fun _ => True :=
    funext fun name => eq_true (.inr (.inl List.mem_cons_self))
  exact everyone ▸ registry.calls_callSelected [CollectorName.everyone] commands

theorem length_callSelected_le (registry : CollectorRegistry κ) (names : List CollectorName)
    (commands : List Command)
    : (registry.callSelected names commands).length ≤ registry.size := by
  rw [callSelected, List.length_map]
  exact List.length_filter_le _ _

end CollectorRegistry

-----------------------------------------------------------------------------------------
-- How long a scheduler runs
-----------------------------------------------------------------------------------------

namespace Scheduler

variable {κ : Type} {clock : Nat} {scheduler : Scheduler}

/-- What happens to a scheduler: it gets a command, or milliseconds pass. -/
inductive Event where
  | trigger (commands : List Command)
  | updateInterval (seconds : Nat)
  | shutdown
  | pass (time : Nat)

/-- How many milliseconds pass. -/
def Event.time : Event → Nat
  | .pass time => time
  | _ => 0

/-- The event ends a scheduler whose clock shows some milliseconds. -/
def Event.Ends (clock : Nat) : Event → Prop
  | .updateInterval seconds => secondsBound ≤ clock / 1000 + seconds
  | .shutdown => True
  | _ => False

/-- The scheduler after an event. One that has stopped is left as it is. -/
def perform (registry : CollectorRegistry κ) (scheduler : Scheduler) : Event → Scheduler
  | .trigger _ => scheduler
  | .updateInterval seconds => (scheduler.updateInterval seconds).toOption.getD scheduler
  | .shutdown => scheduler.shutdown.toOption.getD scheduler
  | .pass time => (scheduler.advance time registry).2

/-- The scheduler after events in their order. -/
def performAll (registry : CollectorRegistry κ) (events : List Event) (scheduler : Scheduler)
    : Scheduler :=
  events.foldl (perform registry) scheduler

/-- One of the events ends a scheduler whose clock shows some milliseconds before them. -/
def Ended (clock : Nat) (events : List Event) : Prop :=
  ∃ before event behind,
    events = before ++ event :: behind ∧ event.Ends (clock + (before.map Event.time).sum)

theorem ended_cons {event : Event} {events : List Event}
    : Ended clock (event :: events) ↔ event.Ends clock ∨ Ended (clock + event.time) events := by
  constructor
  · intro ended
    obtain ⟨before, last, behind, shape, ends⟩ := ended
    cases before with
    | nil =>
        obtain ⟨rfl, rfl⟩ := List.cons.inj shape
        exact .inl ends
    | cons first before =>
        obtain ⟨rfl, rfl⟩ := List.cons.inj shape
        refine .inr ⟨before, last, behind, rfl, ?_⟩
        rwa [List.map_cons, List.sum_cons, ← Nat.add_assoc] at ends
  · intro ended
    rcases ended with ends | ⟨before, last, behind, rfl, ends⟩
    · exact ⟨[], event, events, rfl, ends⟩
    · refine ⟨event :: before, last, behind, rfl, ?_⟩
      rwa [List.map_cons, List.sum_cons, ← Nat.add_assoc]

/-- An event leaves a scheduler running if it ran before, and if the event does not end it. -/
theorem running_perform (registry : CollectorRegistry κ) (scheduler : Scheduler) (event : Event)
    : (scheduler.perform registry event).running = true
      ↔ scheduler.running = true ∧ ¬ event.Ends scheduler.clock := by
  cases event with
  | trigger commands => simp [perform, Event.Ends]
  | updateInterval seconds =>
      rw [perform, updateInterval, Event.Ends]
      cases runs : scheduler.running with
      | false => simp [Except.toOption, runs]
      | true =>
          by_cases bound : secondsBound ≤ scheduler.clock / 1000 + seconds
          · simp [bound, Except.toOption]
          · simp [bound, Except.toOption]
  | shutdown =>
      rw [perform, shutdown]
      cases runs : scheduler.running <;> simp [Event.Ends, Except.toOption, runs]
  | pass time =>
      rw [perform, advance]
      cases runs : scheduler.running <;> simp [Event.Ends, runs]

theorem clock_perform (registry : CollectorRegistry κ) (runs : scheduler.running = true)
    (event : Event)
    : (scheduler.perform registry event).clock = scheduler.clock + event.time := by
  cases event with
  | trigger commands => rfl
  | updateInterval seconds =>
      rw [perform, updateInterval]
      by_cases bound : secondsBound ≤ scheduler.clock / 1000 + seconds
      all_goals simp [bound, runs, Except.toOption, Event.time]
  | shutdown => simp [perform, shutdown, runs, Except.toOption, Event.time]
  | pass time => simp [perform, advance, runs, Event.time]

/-- A scheduler that ran before runs until an event ends it, by induction on the events. -/
theorem running_performAll (registry : CollectorRegistry κ) (events : List Event)
    (scheduler : Scheduler)
    : (scheduler.performAll registry events).running = true
      ↔ scheduler.running = true ∧ ¬ Ended scheduler.clock events := by
  induction events generalizing scheduler with
  | nil => simp [performAll, Ended]
  | cons event events ih =>
      have first : scheduler.performAll registry (event :: events)
          = (scheduler.perform registry event).performAll registry events := rfl
      rw [first, ih, running_perform, ended_cons, not_or, ← and_assoc]
      exact and_congr_right fun ⟨runs, _⟩ => by rw [clock_perform registry runs]

end Scheduler

end NetInventory
