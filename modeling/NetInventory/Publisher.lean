import NetInventory.Bus
import NetInventory.Stage
import NetInventory.Time.Unit

/-! The publisher: a bounded queue in front of the bus. Those who publish never wait; a message
for which there is no room is dropped and counted. The sending side takes up one message after the
other, and between two messages it answers what it is asked.
-/

namespace NetInventory

/-- What the sending side of a publisher is asked for. -/
inductive PublisherRequest where
  | stats
  | stop
deriving DecidableEq, Repr

/-- The request to a stage that this is. -/
def PublisherRequest.stage : PublisherRequest → StageRequest
  | stats => .getStats
  | stop => .shutdown

/-- How far the sending side of a publisher has come. -/
inductive PublisherPhase where
  /-- It has not begun to send. -/
  | waiting
  /-- It sends the message that it has taken up, or else looks for what to do next. -/
  | sending (hand : Option BusMessage)
  | stopped
deriving DecidableEq

/-- What a publisher has done with messages. -/
structure PublisherStats where
  sent : Nat
  dropped : Nat
  failed : Nat
deriving DecidableEq, Repr

/-- A publisher. -/
structure Publisher where
  capacity : Nat
  phase : PublisherPhase
  /-- The requests that the sending side has not seen, in their order. -/
  requests : List PublisherRequest
  /-- The messages that are accepted and not taken up, in their order. -/
  queue : List BusMessage
  stats : PublisherStats

/-- How many messages wait at most, and how long a stop is waited for, in nanoseconds. -/
structure PublisherConfig where
  capacity : Nat
  shutdownTimeout : Nat
deriving DecidableEq, Repr

namespace PublisherConfig

/-- A thousand messages, and five seconds. -/
def standard : PublisherConfig :=
  ⟨1000, 5 * Time.secondNanos⟩

end PublisherConfig

namespace Publisher

/-- A publisher that has not begun to send; it has room for one message at least. -/
def create (capacity : Nat) : Publisher :=
  ⟨max capacity 1, .waiting, [], [], ⟨0, 0, 0⟩⟩

/-- A publisher that accepts nothing. -/
def disabled : Publisher :=
  ⟨1, .stopped, [], [], ⟨0, 0, 0⟩⟩

/-- The message that is taken up and not sent. -/
def hand (publisher : Publisher) : Option BusMessage :=
  match publisher.phase with
  | .sending hand => hand
  | .waiting | .stopped => none

/-- Accepts a message if it is not stopped and has room, and says whether it did. -/
def publish (message : BusMessage) (publisher : Publisher) : Bool × Publisher :=
  if publisher.phase = .stopped || publisher.capacity ≤ publisher.queue.length then
    (false,
      { publisher with
        stats := { publisher.stats with dropped := publisher.stats.dropped + 1 } })
  else
    (true, { publisher with queue := publisher.queue ++ [message] })

/-- Makes a request; fails if the sending side has stopped. -/
def ask (request : PublisherRequest) (publisher : Publisher) : Except StageError Publisher :=
  if publisher.phase = .stopped then .error (.unsent request.stage)
  else .ok { publisher with requests := publisher.requests ++ [request] }

/-- Stops. What is accepted and not sent is lost. -/
def stop (publisher : Publisher) : Publisher :=
  { publisher with phase := .stopped, requests := [], queue := [] }

/-- Begins to send, or stops if there is no way to. -/
def start (bound : Bool) (publisher : Publisher) : Publisher :=
  match publisher.phase with
  | .waiting => if bound then { publisher with phase := .sending none } else publisher.stop
  | .sending _ | .stopped => publisher

/-- What one step of the sending side does. -/
inductive Deed where
  | answered (stats : PublisherStats)
  | stopped
  /-- A message leaves the queue and is handed to the bus. -/
  | handed (message : BusMessage)
  | sent (message : BusMessage)
  | failed (message : BusMessage)
deriving DecidableEq

/-- The message that went out. -/
def Deed.sent? : Deed → Option BusMessage
  | sent message => some message
  | _ => none

/-- The message that is done with. -/
def Deed.settled? : Deed → Option BusMessage
  | sent message | failed message => some message
  | _ => none

/-- Does one thing, if there is something to do: is done with the message that it has taken up, or
else answers the first request, or else takes up the first message. `works` says whether sending a
message succeeds.
-/
def step (works : BusMessage → Bool) (publisher : Publisher) : Option (Deed × Publisher) :=
  match publisher.phase with
  | .waiting | .stopped => none
  | .sending (some message) =>
    let stats := publisher.stats
    let publisher := { publisher with phase := .sending none }
    some <|
      if works message then
        (.sent message, { publisher with stats := { stats with sent := stats.sent + 1 } })
      else
        (.failed message, { publisher with stats := { stats with failed := stats.failed + 1 } })
  | .sending none =>
    match publisher.requests, publisher.queue with
    | .stats :: rest, _ => some (.answered publisher.stats, { publisher with requests := rest })
    | .stop :: _, _ => some (.stopped, publisher.stop)
    | [], message :: rest =>
      some (.handed message, { publisher with phase := .sending (some message), queue := rest })
    | [], [] => none

/-- How much there is to do. A message is taken up first and done with later. -/
def load (publisher : Publisher) : Nat :=
  publisher.requests.length + 2 * publisher.queue.length + publisher.hand.toList.length

/-- Each thing done leaves less to do, since nothing else has come. -/
theorem load_step {works : BusMessage → Bool} {publisher next : Publisher} {deed : Deed}
    (h : publisher.step works = some (deed, next))
    : next.load < publisher.load := by
  unfold step at h
  split at h
  · simp at h
  · simp at h
  next message taken =>
    split at h <;> obtain ⟨-, rfl⟩ := Prod.mk.inj (Option.some.inj h) <;>
      simp [load, hand, taken]
  next idle =>
    split at h
    next rest _ asked =>
      obtain ⟨-, rfl⟩ := Prod.mk.inj (Option.some.inj h)
      simp [load, hand, idle, asked]
    next rest _ asked =>
      obtain ⟨-, rfl⟩ := Prod.mk.inj (Option.some.inj h)
      have done : publisher.stop.load = 0 := rfl
      have waiting : 0 < publisher.requests.length := by simp [asked]
      rw [done, load]
      omega
    next message rest asked queued =>
      obtain ⟨-, rfl⟩ := Prod.mk.inj (Option.some.inj h)
      simp only [load, hand, queued, List.length_cons, Option.toList_some, List.length_nil]
      omega
    · simp at h

/-- Goes on until a message is done with, if there is one, and gives that message. -/
def turn (works : BusMessage → Bool) (publisher : Publisher) : Option BusMessage × Publisher :=
  match _h : publisher.step works with
  | none => (none, publisher)
  | some (deed, next) =>
    match deed.settled? with
    | some message => (some message, next)
    | none => next.turn works
termination_by publisher.load
decreasing_by exact load_step ‹_›

/-- Does what there is to do, and gives the messages that went out, in their order. -/
def run (works : BusMessage → Bool) (publisher : Publisher) : List BusMessage × Publisher :=
  match _h : publisher.step works with
  | none => ([], publisher)
  | some (deed, next) =>
    let (messages, last) := next.run works
    (deed.sent?.toList ++ messages, last)
termination_by publisher.load
decreasing_by exact load_step ‹_›

/-- Asks for the counters, which the sending side gives before it goes on sending. -/
def query (publisher : Publisher) : Except StageError PublisherStats := do
  let asked ← publisher.ask .stats
  match asked.phase with
  | .sending _ => if asked.requests.contains .stop then .error .unanswered else .ok asked.stats
  | .waiting | .stopped => .error .unanswered

/-- Asks the sending side to stop when no message is taken up, and gives the time that this takes:
none if it sends or has stopped, and the whole timeout if it has not begun.
-/
def shutdown (timeout : Nat) (publisher : Publisher) : Nat × Publisher :=
  match publisher.ask .stop with
  | .error _ => (0, publisher)
  | .ok asked =>
    match asked.phase with
    | .sending _ => (0, asked.stop)
    | .waiting | .stopped => (timeout, asked)

end Publisher

end NetInventory
