import NetInventory.Collector.Command
import NetInventory.SortedMap
import NetInventory.Stage
import NetInventory.Time.Unit
import NetInventory.Timer

/-! Collectors and when they are called: all of them on every beat of a timer and on demand, and
chosen ones by name.
-/

namespace NetInventory

/-- A call of a collector with commands. -/
structure CollectorCall (κ : Type) where
  collector : κ
  commands : List Command
deriving DecidableEq

/-- The collectors that are registered, by their names. -/
structure CollectorRegistry (κ : Type) where
  collectors : SortedMap κ

namespace CollectorRegistry

variable {κ : Type}

/-- No collectors. -/
def empty : CollectorRegistry κ :=
  ⟨.empty⟩

/-- Registers a collector in the place of one with the same name. -/
def register (name : CollectorName) (collector : κ) (registry : CollectorRegistry κ)
    : CollectorRegistry κ :=
  ⟨registry.collectors.insert name collector⟩

/-- Removes a collector, and says whether there was one. -/
def unregister (name : CollectorName) (registry : CollectorRegistry κ)
    : Bool × CollectorRegistry κ :=
  (registry.collectors.contains name, ⟨registry.collectors.erase name⟩)

/-- The names of the collectors in order. -/
def names (registry : CollectorRegistry κ) : List CollectorName :=
  registry.collectors.keys

/-- The number of collectors. -/
def size (registry : CollectorRegistry κ) : Nat :=
  registry.collectors.size

/-- Whether there are no collectors. -/
def isEmpty (registry : CollectorRegistry κ) : Bool :=
  registry.collectors.isEmpty

/-- Whether some names stand for every collector: there are none, or one of them does. -/
def selectsEveryone (names : List CollectorName) : Bool :=
  names.isEmpty || names.contains CollectorName.everyone

/-- The calls that are made when named collectors are called. -/
def callSelected (names : List CollectorName) (commands : List Command)
    (registry : CollectorRegistry κ) : List (CollectorCall κ) :=
  (registry.collectors.toList.filter fun entry =>
    selectsEveryone names || names.contains entry.1).map fun entry => ⟨entry.2, commands⟩

/-- The calls that are made when all collectors are called. -/
def callAll (commands : List Command) (registry : CollectorRegistry κ)
    : List (CollectorCall κ) :=
  registry.callSelected [CollectorName.everyone] commands

end CollectorRegistry

/-- What calls the collectors on every beat. Times are counted in milliseconds. -/
structure Scheduler where
  timer : Timer
  /-- What the clock of the machine shows. It has counted from some instant before the start on. -/
  clock : Nat
  running : Bool
deriving DecidableEq, Repr

namespace Scheduler

/-- The time between two beats unless another is asked for: a minute, in nanoseconds. -/
def defaultHeartbeat : Nat :=
  60 * Time.secondNanos

/-- What the clock shows at the start if nothing is said about it: a day. -/
def defaultClock : Nat :=
  Time.daySeconds.toNat * 1000

/-- A scheduler with a beat of some milliseconds, which starts when the clock shows some time. -/
def start (heartbeat : Nat) (clock : Nat := defaultClock) : Scheduler :=
  ⟨.start heartbeat, clock, true⟩

/-- The first second of the clock that no timer can be set to: a timer goes off at a time that is
told in less than `2 ^ 63` seconds.
-/
def secondsBound : Nat :=
  UInt64.size / 2

/-- Lets milliseconds pass, and gives the calls that are made meanwhile. -/
def advance {κ : Type} (time : Nat) (registry : CollectorRegistry κ) (scheduler : Scheduler)
    : List (CollectorCall κ) × Scheduler :=
  if scheduler.running then
    let (beats, timer) := scheduler.timer.advance time
    let clock := scheduler.clock + time
    ((List.replicate beats (registry.callAll [])).flatten, { scheduler with timer, clock })
  else
    ([], scheduler)

/-- Calls all collectors at once. -/
def trigger {κ : Type} (commands : List Command) (registry : CollectorRegistry κ)
    (scheduler : Scheduler) : Except StageError (List (CollectorCall κ)) :=
  if scheduler.running then .ok (registry.callAll commands) else .error (.unsent .triggerNow)

/-- Sets the time between two beats to some seconds, and to one second at least. The next beat is
that time away. A beat that no timer can be set to ends the scheduler.
-/
def updateInterval (seconds : Nat) (scheduler : Scheduler) : Except StageError Scheduler :=
  if !scheduler.running then
    .error (.unsent .updateInterval)
  else if secondsBound ≤ scheduler.clock / 1000 + seconds then
    .ok { scheduler with running := false }
  else
    .ok { scheduler with timer := .start (max seconds 1 * 1000) }

/-- Stops calling collectors. -/
def shutdown (scheduler : Scheduler) : Except StageError Scheduler :=
  if scheduler.running then .ok { scheduler with running := false }
  else .error (.unsent .shutdown)

end Scheduler

end NetInventory
