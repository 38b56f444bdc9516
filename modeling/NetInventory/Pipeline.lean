import NetInventory.Ingest.Actor
import NetInventory.Reporter
import NetInventory.Timer

/-! The stages in a row: reports are published on the bus, a bridge forwards them into ingestion,
and ingestion publishes alerts and merged records in turn. The stages take turns. One that has
done many things in its turn breaks off, so that none keeps the others waiting.
-/

namespace NetInventory

/-- What forwards messages from the bus into the queue of ingestion. -/
structure Bridge where
  subscription : Subscription
  /-- A message that was taken from the bus and waits for room in the queue. -/
  held : Option BusMessage
deriving DecidableEq

namespace Bridge

/-- What the topics begin with that a bridge forwards. -/
def starts : List String :=
  Topic.ingested.map (·.text)

/-- A bridge that forwards what is sent from now on. -/
def create (bus : Bus) : Bridge :=
  ⟨.subscribe bus starts, none⟩

end Bridge

/-- The stages that take turns. -/
inductive Station where
  | publisher
  | bridge
  | ingestion
deriving DecidableEq, Repr

/-- The stages in a row. -/
structure Pipeline where
  publisher : Publisher
  bus : Bus
  bridge : Option Bridge
  actor : IngestActor
  pruneTimer : Timer
  /-- The stages that may have something to do, in the order in which they take their turns. -/
  line : List Station
  /-- The stages that broke off and are not in the line again; the last one comes first. -/
  resting : List Station

namespace Pipeline

/-- The stages at work. Room for messages is given for the publisher and for the bus. -/
def create (store : Store) (capacity busCapacity : Nat) (config : IngestConfig) : Pipeline :=
  let bus := Bus.create busCapacity
  { publisher := (Publisher.create capacity).start true
    bus
    bridge := some (.create bus)
    actor := .create store config
    pruneTimer := .start (config.pruneInterval / 1000000)
    line := []
    resting := [] }

/-- Puts a stage at the end of the line, unless it is in it or broke off. -/
def call (station : Station) (pipeline : Pipeline) : Pipeline :=
  if pipeline.line.contains station || pipeline.resting.contains station then pipeline
  else { pipeline with line := pipeline.line ++ [station] }

/-- Calls the bridge if what it waits for has come: room for a message that it holds, or else a
message.
-/
def callBridge (roomCame : Bool) (pipeline : Pipeline) : Pipeline :=
  if pipeline.bridge.any (fun bridge => bridge.held.isSome = roomCame) then pipeline.call .bridge
  else pipeline

/-- Publishes a message, and says whether it was accepted. -/
def publish (message : BusMessage) (pipeline : Pipeline) : Bool × Pipeline :=
  let (accepted, publisher) := pipeline.publisher.publish message
  let pipeline := { pipeline with publisher }
  (accepted, if accepted then pipeline.call .publisher else pipeline)

/-- What ingestion lets others know goes to the publisher. -/
def publishEffect (instant : Int) (pipeline : Pipeline) (effect : Effect) : Pipeline :=
  match effect with
  | .alert alert => (pipeline.publish (.ofAlert instant alert)).2
  | .merged record => (pipeline.publish (.ofRecord record)).2

/-- The publisher sends a message on the bus. -/
def sendNext? (pipeline : Pipeline) : Option Pipeline :=
  match pipeline.publisher.turn (fun _ => true) with
  | (none, _) => none
  | (some message, publisher) =>
    some ({ pipeline with publisher, bus := pipeline.bus.send message }.callBridge false)

/-- The bridge puts the message that it holds into the queue of ingestion, or else looks at the next
message on the bus.
-/
def forwardNext? (pipeline : Pipeline) : Option Pipeline := do
  let bridge ← pipeline.bridge
  match bridge.held with
  | some message =>
    guard !pipeline.actor.isFull
    let actor ← (pipeline.actor.submit message).toOption
    let bridge := some { bridge with held := none }
    return { pipeline with bridge, actor }.call .ingestion
  | none =>
    let (held, subscription) ← bridge.subscription.look? pipeline.bus
    return { pipeline with bridge := some ⟨subscription, held⟩ }

/-- Ingestion does one thing. A message that it handles leaves room for the bridge at once, before
anything is published.
-/
def ingestNext? (instant : Int) (pipeline : Pipeline) : Option Pipeline :=
  (pipeline.actor.turn instant).map fun (_, effects, actor) =>
    effects.foldl (publishEffect instant) ({ pipeline with actor }.callBridge true)

/-- A stage does one thing, if there is something to do. -/
def next? (instant : Int) (pipeline : Pipeline) : Station → Option Pipeline
  | .publisher => pipeline.sendNext?
  | .bridge => pipeline.forwardNext?
  | .ingestion => pipeline.ingestNext? instant

/-- A stage does what there is to do, but breaks off when it has done a number of things. -/
def work (instant : Int) (station : Station) : Nat → Pipeline → Pipeline
  | 0, pipeline => { pipeline with resting := station :: pipeline.resting }
  | bound + 1, pipeline =>
    match pipeline.next? instant station with
    | none => pipeline
    | some pipeline => work instant station bound pipeline

/-- How many things a stage does before it breaks off. -/
def turnBound : Nat :=
  128

/-- A stage takes its turn. -/
def takeTurn (instant : Int) (pipeline : Pipeline) (station : Station) : Pipeline :=
  pipeline.work instant station turnBound

/-- How many turns are taken before the stages that broke off are put into the line again. -/
def lapBound : Nat :=
  61

/-- The stages that broke off stand in line again. -/
def resume (pipeline : Pipeline) : Pipeline :=
  { pipeline with line := pipeline.line ++ pipeline.resting, resting := [] }

/-- How many messages there are on their way to ingestion, or waiting to be published. -/
def load (pipeline : Pipeline) : Nat :=
  pipeline.publisher.queue.length + pipeline.actor.inbound.length
    + (match pipeline.bridge with
      | none => 0
      | some bridge =>
        bridge.held.toList.length + (pipeline.bus.unread bridge.subscription.position).length)

/-- The stages take turns until there is nothing to do. A message makes for a dozen things to do at
most, with the alert and the record that it leads to and what the bridge misses of them, since what
ingestion publishes is never forwarded to it again. So there are fewer turns than the bound.
-/
def run (instant : Int) (pipeline : Pipeline) : Pipeline :=
  go (32 * (pipeline.load + 1)) lapBound pipeline
where
  /-- A number of turns, of which some belong to the lap at hand. -/
  go : Nat → Nat → Pipeline → Pipeline
    | 0, _, pipeline => pipeline
    | bound + 1, left, pipeline =>
      match pipeline.line with
      | [] => if pipeline.resting.isEmpty then pipeline else go bound lapBound pipeline.resume
      | station :: line =>
        let pipeline := { pipeline with line }.takeTurn instant station
        if left ≤ 1 then go bound lapBound pipeline.resume else go bound (left - 1) pipeline

/-- Lets milliseconds pass: the stages do what there is to do, and then stale devices are removed
whenever the timer goes off.
-/
def sleep (instant : Int) (time : Nat) (pipeline : Pipeline) : Pipeline :=
  let pipeline := pipeline.run instant
  let (ticks, pruneTimer) := pipeline.pruneTimer.advance time
  { pipeline with pruneTimer, actor := pipeline.actor.tickTimes ticks }

/-- Stops every stage, the bridge first. While ingestion is stopping, the stages that stand in line
take one more turn; then the publisher stops.
-/
def shutdown (instant : Int) (timeout : Nat) (pipeline : Pipeline) : Pipeline :=
  let pipeline := { pipeline with bridge := none }
  let pipeline :=
    match pipeline.actor.ask .stop with
    | .ok actor =>
      let pipeline := { pipeline with actor }.call .ingestion
      pipeline.line.foldl (takeTurn instant) { pipeline with line := [] }
    | .error _ => pipeline
  { pipeline with publisher := (pipeline.publisher.shutdown timeout).2 }

end Pipeline

end NetInventory
