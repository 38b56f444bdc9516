import NetInventory.Ingest

/-! The running side of ingestion: a bounded queue of messages, and requests that go before it. A
request that is answered is answered only after the messages that were queued before it.
-/

namespace NetInventory

/-- What running ingestion is asked for. -/
inductive IngestRequest where
  | stats
  | prune
  | stop
deriving DecidableEq, Repr

/-- The answer to a request. -/
inductive IngestReply where
  | stats (stats : IngestStats)
  /-- The number of devices that were removed. -/
  | pruned (count : Nat)
  | stopped
deriving DecidableEq, Repr

/-- Running ingestion. -/
structure IngestActor where
  ingest : Ingest
  capacity : Nat
  running : Bool
  /-- The messages that are not handled, in their order. -/
  inbound : List BusMessage
  /-- The requests that are not answered, in their order. -/
  requests : List IngestRequest

namespace IngestActor

/-- Ingestion that begins to run; there is room for one message at least. -/
def create (store : Store) (config : IngestConfig) : IngestActor :=
  ⟨.create store config.staleAfter, max config.queueCapacity 1, true, [], []⟩

/-- Whether a message has to wait until there is room. -/
def isFull (actor : IngestActor) : Bool :=
  actor.running && actor.capacity ≤ actor.inbound.length

/-- Queues a message. Only to be used if there is room; fails if ingestion has stopped. -/
def submit (message : BusMessage) (actor : IngestActor) : Except StageError IngestActor :=
  if actor.running then .ok { actor with inbound := actor.inbound ++ [message] }
  else .error .ingestionStopped

/-- Makes a request; fails if ingestion has stopped. -/
def ask (request : IngestRequest) (actor : IngestActor) : Except StageError IngestActor :=
  if actor.running then .ok { actor with requests := actor.requests ++ [request] }
  else
    .error <| .unsent <| match request with
      | .stats => .getStats
      | .prune => .pruneNow
      | .stop => .shutdown

/-- Handles every message in the queue. -/
def drain (instant : Int) (actor : IngestActor) : List Effect × IngestActor :=
  let (effects, ingest) := actor.ingest.handleAll instant actor.inbound
  (effects, { actor with ingest, inbound := [] })

/-- Answers a request. Messages that are queued are handled before the counters are given and
before devices are removed; they are lost when ingestion stops.
-/
def answer (instant : Int) (request : IngestRequest) (actor : IngestActor)
    : List Effect × IngestReply × IngestActor :=
  match request with
  | .stats =>
    let (effects, actor) := actor.drain instant
    (effects, .stats actor.ingest.stats, actor)
  | .prune =>
    let (effects, actor) := actor.drain instant
    let (count, ingest) := actor.ingest.prune
    (effects, .pruned count, { actor with ingest })
  | .stop => ([], .stopped, { actor with running := false, inbound := [], requests := [] })

/-- What one step of running ingestion does. -/
inductive Deed where
  | answered (request : IngestRequest) (reply : IngestReply)
  | handled (message : BusMessage)
deriving DecidableEq

/-- Does one thing, if there is something to do: answers the first request, or else handles the
first message.
-/
def turn (instant : Int) (actor : IngestActor) : Option (Deed × List Effect × IngestActor) :=
  if !actor.running then
    none
  else
    match actor.requests, actor.inbound with
    | request :: rest, _ =>
      let (effects, reply, actor) := { actor with requests := rest }.answer instant request
      some (.answered request reply, effects, actor)
    | [], message :: rest =>
      let (effects, ingest) := actor.ingest.handle instant message
      some (.handled message, effects, { actor with ingest, inbound := rest })
    | [], [] => none

/-- Each thing done leaves less to do: a request or a message is gone, and none has come. -/
theorem length_turn {instant : Int} {actor next : IngestActor} {deed : Deed}
    {effects : List Effect} (h : actor.turn instant = some (deed, effects, next))
    : next.requests.length + next.inbound.length
      < actor.requests.length + actor.inbound.length := by
  unfold turn at h
  split at h
  · simp at h
  · split at h
    next _ request rest asked =>
      obtain ⟨-, h⟩ := Prod.mk.inj (Option.some.inj h)
      obtain ⟨-, rfl⟩ := Prod.mk.inj h
      cases request <;> simp [drain, asked] <;> omega
    next message rest asked queued =>
      obtain ⟨-, h⟩ := Prod.mk.inj (Option.some.inj h)
      obtain ⟨-, rfl⟩ := Prod.mk.inj h
      simp [asked, queued]
    · simp at h

/-- Does what there is to do, and gives the answers and the effects in their order. -/
def run (instant : Int) (actor : IngestActor) : List IngestReply × List Effect × IngestActor :=
  match _h : actor.turn instant with
  | none => ([], [], actor)
  | some (deed, effects, next) =>
    let (replies, later, last) := next.run instant
    match deed with
    | .answered _ reply => (reply :: replies, effects ++ later, last)
    | .handled _ => (replies, effects ++ later, last)
termination_by actor.requests.length + actor.inbound.length
decreasing_by exact length_turn ‹_›

/-- Makes a request and waits for the answer; everything that is queued is handled meanwhile. -/
def consult (instant : Int) (request : IngestRequest) (actor : IngestActor)
    : Except StageError IngestReply × List Effect × IngestActor :=
  match actor.ask request with
  | .error error => (.error error, [], actor)
  | .ok actor =>
    let (replies, effects, actor) := actor.run instant
    (match replies with
      | reply :: _ => .ok reply
      | [] => .error .unanswered,
      effects, actor)

/-- The prune timer goes off. -/
def tick (actor : IngestActor) : IngestActor :=
  if actor.running then { actor with ingest := actor.ingest.prune.2 } else actor

/-- The prune timer goes off a number of times. -/
def tickTimes : Nat → IngestActor → IngestActor
  | 0, actor => actor
  | n + 1, actor => tickTimes n actor.tick

/-- Queues a message when there is room: ingestion does what there is to do if there is none. -/
def deliver (instant : Int) (message : BusMessage) (actor : IngestActor)
    : List Effect × Except StageError IngestActor :=
  if actor.isFull then
    let (_, effects, actor) := actor.run instant
    (effects, actor.submit message)
  else
    ([], actor.submit message)

end IngestActor

end NetInventory
