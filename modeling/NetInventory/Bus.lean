import NetInventory.Json.Codec
import NetInventory.Topic

/-! The bus that messages travel on. It keeps the latest messages for subscribers that are behind;
a subscriber that falls further behind goes on with the oldest message that is kept.
-/

namespace NetInventory

/-- A message on the bus. -/
structure BusMessage where
  topic : String
  payload : ByteArray

namespace BusMessage

/-- Messages are equal if their topics and bytes are. -/
instance : DecidableEq BusMessage :=
  fun ⟨topic, ⟨bytes⟩⟩ ⟨otherTopic, ⟨otherBytes⟩⟩ =>
    decidable_of_iff (topic = otherTopic ∧ bytes = otherBytes) (by simp)

/-- The message that carries a JSON value under a topic. -/
def ofJson (topic : Topic) (json : Json) : BusMessage :=
  ⟨topic.text, json.toBytes⟩

/-- Whether the topic of a message begins with one of some texts; any topic does if there are
none.
-/
def isWanted (starts : List String) (message : BusMessage) : Bool :=
  starts.isEmpty || starts.any (fun start => start.toList.isPrefixOf message.topic.toList)

end BusMessage

/-- A bus, given by the number of messages sent on it and those of them that it keeps, oldest
first.
-/
structure Bus where
  capacity : Nat
  sent : Nat
  kept : List BusMessage

namespace Bus

/-- The least power of two that is not below a number. -/
def powerAtLeast (number : Nat) : Nat :=
  1 <<< (2 * number - 1).log2

/-- A bus that keeps at least a number of messages; the number is taken up to a power of two. -/
def create (capacity : Nat) : Bus :=
  ⟨powerAtLeast (max capacity 1), 0, []⟩

/-- How many messages a bus keeps at least unless another number is asked for. -/
def defaultCapacity : Nat :=
  1024

/-- Sends a message. The oldest message gives way if there is no room. -/
def send (bus : Bus) (message : BusMessage) : Bus :=
  { bus with
    sent := bus.sent + 1
    kept := (bus.kept ++ [message]).drop (bus.kept.length + 1 - bus.capacity) }

/-- The kept messages from a place in the sequence of all messages on. -/
def unread (bus : Bus) (position : Nat) : List BusMessage :=
  bus.kept.drop (bus.kept.length - (bus.sent - position))

end Bus

/-- A subscription, given by what the wanted topics begin with and its place in the sequence of all
messages.
-/
structure Subscription where
  starts : List String
  position : Nat
deriving DecidableEq

namespace Subscription

/-- A subscription to what is sent from now on. -/
def subscribe (bus : Bus) (starts : List String) : Subscription :=
  ⟨starts, bus.sent⟩

/-- Takes the next wanted message, if one is there. -/
def receive (bus : Bus) (subscription : Subscription) : Option BusMessage × Subscription :=
  match (bus.unread subscription.position).dropWhile
      (fun message => !message.isWanted subscription.starts) with
  | [] => (none, { subscription with position := bus.sent })
  | message :: rest => (some message, { subscription with position := bus.sent - rest.length })

/-- Looks at the next message, if one was sent. It is taken if it is kept and wanted; if it is not
kept, the oldest message that is kept comes next.
-/
def look? (bus : Bus) (subscription : Subscription)
    : Option (Option BusMessage × Subscription) :=
  match bus.unread subscription.position with
  | [] => none
  | message :: rest =>
    let oldest := bus.sent - rest.length - 1
    some <|
      if subscription.position < oldest then (none, { subscription with position := oldest })
      else (if message.isWanted subscription.starts then some message else none,
        { subscription with position := oldest + 1 })

end Subscription

end NetInventory
