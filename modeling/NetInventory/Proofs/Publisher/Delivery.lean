import Mathlib.Data.List.Infix
import NetInventory.Publisher

/-! What becomes of messages in any interleaving of those who publish with the steps of the sending
side. Accepted messages are handed to the bus in their order, each once, until the sending side
stops, and the counters account for every message that was offered.
-/

namespace NetInventory

/-- What happens to a publisher. -/
inductive PublisherEvent where
  | publish (message : BusMessage)
  | ask (request : PublisherRequest)
  /-- The sending side begins; `bound` says whether there is a way to send. -/
  | start (bound : Bool)
  /-- The sending side does one thing, if there is something to do; `works` says whether sending a
  message succeeds this time.
  -/
  | step (works : BusMessage → Bool)

def PublisherEvent.isPublish : PublisherEvent → Bool
  | publish _ => true
  | _ => false

namespace Publisher

/-- What can become of a message. -/
inductive Fate where
  | accepted
  | refused
  | handed
  | sent
  | failed
deriving DecidableEq

/-- An entry in the history of a publisher. -/
structure Entry where
  fate : Fate
  message : BusMessage
deriving DecidableEq

/-- The messages that a history tells one of these things about, in their order. -/
def told (fates : List Fate) (history : List Entry) : List BusMessage :=
  (history.filter (·.fate ∈ fates)).map (·.message)

/-- What the history tells of a deed. -/
def Deed.entries : Deed → List Entry
  | answered _ | stopped => []
  | handed message => [⟨.handed, message⟩]
  | sent message => [⟨.sent, message⟩]
  | failed message => [⟨.failed, message⟩]

/-- What an event adds to the history, and the publisher after it. -/
def perform (event : PublisherEvent) (publisher : Publisher) : List Entry × Publisher :=
  match event with
  | .publish message =>
      let (accepted, next) := publisher.publish message
      ([⟨if accepted then .accepted else .refused, message⟩], next)
  | .ask request =>
      match publisher.ask request with
      | .ok next => ([], next)
      | .error _ => ([], publisher)
  | .start bound => ([], publisher.start bound)
  | .step works =>
      match publisher.step works with
      | some (deed, next) => (deed.entries, next)
      | none => ([], publisher)

/-- The history of a run, and the publisher after it. -/
def performAll : List PublisherEvent → Publisher → List Entry × Publisher
  | [], publisher => ([], publisher)
  | event :: rest, publisher =>
      let (entries, next) := publisher.perform event
      let (later, last) := next.performAll rest
      (entries ++ later, last)

@[simp]
theorem told_append (fates : List Fate) (history later : List Entry)
    : told fates (history ++ later) = told fates history ++ told fates later := by
  simp [told]

@[simp]
theorem told_nil (fates : List Fate) : told fates [] = [] := rfl

@[simp]
theorem told_singleton (fates : List Fate) (fate : Fate) (message : BusMessage)
    : told fates [⟨fate, message⟩] = if fate ∈ fates then [message] else [] := by
  by_cases member : fate ∈ fates <;> simp [told, member]

theorem told_cons (fates : List Fate) (entry : Entry) (rest : List Entry)
    : told fates (entry :: rest) = told fates [entry] ++ told fates rest :=
  told_append fates [entry] rest

variable {publisher next : Publisher} {works : BusMessage → Bool} {deed : Deed}
  {history : List Entry} {capacity : Nat}

-----------------------------------------------------------------------------------------
-- One event
-----------------------------------------------------------------------------------------

/-- Whether a message that is offered now is refused. -/
def Refuses (publisher : Publisher) : Prop :=
  publisher.phase = .stopped ∨ publisher.capacity ≤ publisher.queue.length

theorem publish_of_refuses (refuses : publisher.Refuses) (message : BusMessage)
    : publisher.publish message
      = (
        false,
        { publisher with
          stats := { publisher.stats with dropped := publisher.stats.dropped + 1 } }
      ) := by
  rcases refuses with stopped | full
  · simp [publish, stopped]
  · simp [publish, full]

theorem publish_of_room (room : ¬ publisher.Refuses) (message : BusMessage)
    : publisher.publish message
      = (true, { publisher with queue := publisher.queue ++ [message] }) := by
  obtain ⟨runs, free⟩ := not_or.mp room
  simp [publish, runs, free]

/-- What one step of the sending side can do. -/
inductive Stepped (works : BusMessage → Bool) (publisher : Publisher)
    : Deed → Publisher → Prop
  | sent {message}
    (taken : publisher.phase = .sending (some message))
    (succeeds : works message = true)
    : Stepped works publisher (.sent message)
        { publisher with
          phase := .sending none
          stats := { publisher.stats with sent := publisher.stats.sent + 1 } }
  | failed {message}
    (taken : publisher.phase = .sending (some message))
    (fails : works message = false)
    : Stepped works publisher (.failed message)
        { publisher with
          phase := .sending none
          stats := { publisher.stats with failed := publisher.stats.failed + 1 } }
  | answered {rest}
    (idle : publisher.phase = .sending none)
    (asked : publisher.requests = .stats :: rest)
    : Stepped works publisher (.answered publisher.stats) { publisher with requests := rest }
  | stopped {rest}
    (idle : publisher.phase = .sending none)
    (asked : publisher.requests = .stop :: rest)
    : Stepped works publisher .stopped publisher.stop
  | handed {message rest}
    (idle : publisher.phase = .sending none)
    (unasked : publisher.requests = [])
    (queued : publisher.queue = message :: rest)
    : Stepped works publisher (.handed message)
        { publisher with phase := .sending (some message), queue := rest }

theorem stepped_of_step (stepped : publisher.step works = some (deed, next))
    : Stepped works publisher deed next := by
  unfold step at stepped
  split at stepped
  next => simp at stepped
  next => simp at stepped
  next message taken =>
    split at stepped
    next succeeds =>
      obtain ⟨rfl, rfl⟩ := Prod.mk.inj (Option.some.inj stepped)
      exact .sent taken succeeds
    next fails =>
      obtain ⟨rfl, rfl⟩ := Prod.mk.inj (Option.some.inj stepped)
      exact .failed taken (Bool.of_not_eq_true fails)
  next idle =>
    split at stepped
    next rest _ asked =>
      obtain ⟨rfl, rfl⟩ := Prod.mk.inj (Option.some.inj stepped)
      exact .answered idle asked
    next rest _ asked =>
      obtain ⟨rfl, rfl⟩ := Prod.mk.inj (Option.some.inj stepped)
      exact .stopped idle asked
    next message rest unasked queued =>
      obtain ⟨rfl, rfl⟩ := Prod.mk.inj (Option.some.inj stepped)
      exact .handed idle unasked queued
    next => simp at stepped

theorem hand_of_sending {message : Option BusMessage}
    (sending : publisher.phase = .sending message)
    : publisher.hand = message := by
  simp [hand, sending]

-----------------------------------------------------------------------------------------
-- What the history tells of the publisher
-----------------------------------------------------------------------------------------

/-- The history tells what the publisher holds and has counted. -/
structure Delivers (capacity : Nat) (history : List Entry) (publisher : Publisher)
    : Prop where
  capacity : publisher.capacity = max capacity 1
  room : publisher.queue.length ≤ publisher.capacity
  order : told [.handed] history <+: told [.accepted] history
  waiting
    : publisher.phase ≠ .stopped
      → told [.accepted] history = told [.handed] history ++ publisher.queue
  settled
    : told [.handed] history = told [.sent, .failed] history ++ publisher.hand.toList
  dropped : publisher.stats.dropped = (told [.refused] history).length
  sent : publisher.stats.sent = (told [.sent] history).length
  failed : publisher.stats.failed = (told [.failed] history).length

/-- Offering a message adds it to the queue or counts it as dropped. -/
theorem Delivers.publish (delivers : Delivers capacity history publisher) (message : BusMessage)
    : Delivers capacity (history ++ (publisher.perform (.publish message)).1)
        (publisher.perform (.publish message)).2 := by
  obtain ⟨capacity, room, order, waiting, settled, dropped, sent, failed⟩ := delivers
  by_cases refuses : publisher.Refuses
  · simp only [perform, publish_of_refuses refuses]
    constructor <;> simpa
  · obtain ⟨runs, free⟩ := not_or.mp refuses
    simp only [perform, publish_of_room refuses]
    constructor
    case room => simp; omega
    case order => simpa using order.trans (List.prefix_append _ _)
    case waiting => simp [waiting runs]
    all_goals simpa

/-- Requests have nothing to do with messages. -/
theorem Delivers.of_requests (delivers : Delivers capacity history publisher)
    (requests : List PublisherRequest)
    : Delivers capacity history { publisher with requests } :=
  ⟨delivers.capacity, delivers.room, delivers.order, delivers.waiting, delivers.settled,
    delivers.dropped, delivers.sent, delivers.failed⟩

/-- Stopping loses what waits and keeps what was counted. -/
theorem Delivers.stop (delivers : Delivers capacity history publisher)
    (idle : publisher.hand = none)
    : Delivers capacity history publisher.stop where
  capacity := delivers.capacity
  room := Nat.zero_le _
  order := delivers.order
  waiting running := absurd rfl running
  settled := by
    have settled := delivers.settled
    rwa [idle] at settled
  dropped := delivers.dropped
  sent := delivers.sent
  failed := delivers.failed

/-- A step moves a message on, from the queue to the hand or from the hand to a counter, or else
it moves none.
-/
theorem Delivers.step (delivers : Delivers capacity history publisher)
    (stepped : Stepped works publisher deed next)
    : Delivers capacity (history ++ deed.entries) next := by
  cases stepped with
  | answered _ _ => simpa [Deed.entries] using delivers.of_requests _
  | stopped idle _ => simpa [Deed.entries] using delivers.stop (hand_of_sending idle)
  | sent taken _ | failed taken _ =>
    obtain ⟨capacity, room, order, waiting, settled, dropped, sent, failed⟩ := delivers
    rw [hand_of_sending taken] at settled
    constructor <;> simp_all [Deed.entries, hand]
  | @handed message rest idle _ queued =>
    obtain ⟨capacity, room, order, waiting, settled, dropped, sent, failed⟩ := delivers
    rw [hand_of_sending idle] at settled
    have moved : told [.accepted] history = told [.handed] history ++ [message] ++ rest := by
      simpa [queued] using waiting (by simp [idle])
    constructor
    case room => rw [queued] at room; exact Nat.le_of_succ_le room
    case order => simp [Deed.entries, moved]
    all_goals simp_all [Deed.entries, hand]

/-- Whether it sends or is stopped, a beginning changes nothing; before, nothing is in hand. -/
theorem Delivers.start (delivers : Delivers capacity history publisher) (bound : Bool)
    : Delivers capacity history (publisher.start bound) := by
  unfold Publisher.start
  split
  next waits =>
    have idle : publisher.hand = none := by simp [hand, waits]
    cases bound with
    | true =>
      obtain ⟨capacity, room, order, waiting, settled, dropped, sent, failed⟩ := delivers
      constructor <;> simp_all [hand]
    | false => exact delivers.stop idle
  · exact delivers
  · exact delivers

theorem Delivers.perform (delivers : Delivers capacity history publisher)
    (event : PublisherEvent)
    : Delivers capacity (history ++ (publisher.perform event).1) (publisher.perform event).2 := by
  cases event with
  | publish message => exact delivers.publish message
  | start bound => simpa [Publisher.perform] using delivers.start bound
  | ask request =>
    by_cases stopped : publisher.phase = .stopped
    · simpa [Publisher.perform, ask, stopped] using delivers
    · simpa [Publisher.perform, ask, stopped] using delivers.of_requests _
  | step works =>
    simp only [Publisher.perform]
    split
    next deed next stepped => exact delivers.step (stepped_of_step stepped)
    next => simpa using delivers

/-- The history of a run tells what the publisher after it holds and has counted, by induction
over the events.
-/
theorem Delivers.performAll (delivers : Delivers capacity history publisher)
    (events : List PublisherEvent)
    : Delivers capacity (history ++ (publisher.performAll events).1)
        (publisher.performAll events).2 := by
  induction events generalizing history publisher with
  | nil => simpa [Publisher.performAll] using delivers
  | cons event rest ih =>
    simpa [Publisher.performAll, List.append_assoc] using ih (delivers.perform event)

theorem delivers_create (capacity : Nat) : Delivers capacity [] (create capacity) := by
  constructor <;> simp [create, hand]

/-- A publisher that has stopped takes up nothing and stays stopped. -/
theorem perform_of_stopped (stopped : publisher.phase = .stopped) (event : PublisherEvent)
    : (publisher.perform event).2.phase = .stopped
      ∧ ∀ entry ∈ (publisher.perform event).1, entry.fate = .refused := by
  cases event with
  | publish message => simp [perform, publish_of_refuses (.inl stopped), stopped]
  | ask request => simp [perform, ask, stopped]
  | start bound => simp [perform, start, stopped]
  | step works => simp [perform, step, stopped]

theorem performAll_of_stopped (stopped : publisher.phase = .stopped)
    (events : List PublisherEvent)
    : (publisher.performAll events).2.phase = .stopped
      ∧ ∀ entry ∈ (publisher.performAll events).1, entry.fate = .refused := by
  induction events generalizing publisher with
  | nil => exact ⟨stopped, by simp [performAll]⟩
  | cons event rest ih =>
    obtain ⟨stays, refused⟩ := perform_of_stopped stopped event
    obtain ⟨ends, later⟩ := ih stays
    refine ⟨ends, fun entry member => ?_⟩
    rcases List.mem_append.mp member with now | afterwards
    · exact refused entry now
    · exact later entry afterwards

-----------------------------------------------------------------------------------------
-- Counting
-----------------------------------------------------------------------------------------

theorem length_told_pair {fate other : Fate} (distinct : fate ≠ other)
    (history : List Entry)
    : (told [fate, other] history).length
      = (told [fate] history).length + (told [other] history).length := by
  induction history with
  | nil => rfl
  | cons entry rest ih =>
    have here : (told [fate, other] [entry]).length
        = (told [fate] [entry]).length + (told [other] [entry]).length := by
      rw [told_singleton, told_singleton, told_singleton]
      by_cases one : entry.fate = fate <;> simp [one, distinct]
    rw [told_cons [fate, other], told_cons [fate], told_cons [other]]
    simp only [List.length_append, ih, here]
    omega

/-- Each message that is offered is accepted or refused, once. -/
theorem length_told_perform (event : PublisherEvent) (publisher : Publisher)
    : (told [.accepted, .refused] (publisher.perform event).1).length
      = [event].countP (·.isPublish) := by
  cases event with
  | publish message =>
    by_cases refuses : publisher.Refuses
    · simp [perform, publish_of_refuses refuses, PublisherEvent.isPublish]
    · simp [perform, publish_of_room refuses, PublisherEvent.isPublish]
  | ask request =>
    by_cases stopped : publisher.phase = .stopped <;>
      simp [perform, ask, stopped, PublisherEvent.isPublish]
  | start bound => rfl
  | step works =>
    simp only [perform]
    split
    next deed _ _ => cases deed <;> simp [Deed.entries, PublisherEvent.isPublish]
    next => rfl

theorem length_told_performAll (events : List PublisherEvent) (publisher : Publisher)
    : (told [.accepted, .refused] (publisher.performAll events).1).length
      = events.countP (·.isPublish) := by
  induction events generalizing publisher with
  | nil => rfl
  | cons event rest ih =>
    rw [show event :: rest = [event] ++ rest from rfl, List.countP_append,
      ← length_told_perform event publisher, ← ih (publisher.perform event).2]
    simp [performAll]

/-- While the sending side has not stopped, each message that was offered is dropped, done with,
in hand or waiting.
-/
theorem Delivers.balance {events : List PublisherEvent}
    (delivers : Delivers capacity history publisher)
    (offered : (told [.accepted, .refused] history).length = events.countP (·.isPublish))
    (running : publisher.phase ≠ .stopped)
    : events.countP (·.isPublish)
      = publisher.stats.dropped + publisher.stats.sent + publisher.stats.failed
        + publisher.queue.length + publisher.hand.toList.length := by
  have accepted : told [.accepted] history
      = told [.sent, .failed] history ++ publisher.hand.toList ++ publisher.queue := by
    rw [delivers.waiting running, delivers.settled]
  have counted := congrArg List.length accepted
  simp only [List.length_append, length_told_pair (show Fate.sent ≠ .failed by decide)]
    at counted
  rw [length_told_pair (by decide)] at offered
  rw [delivers.dropped, delivers.sent, delivers.failed]
  omega

/-- However those who publish and the sending side take turns, the messages that are handed to
the bus are the first accepted ones in their order, and all but the one in hand are done with.
A message is refused just when the queue is full or the sending side has stopped, which the
counters tell, and after it has stopped nothing but refusals happens.
-/
theorem run_delivers (capacity : Nat) (events later : List PublisherEvent)
    (message : BusMessage)
    : let history := ((create capacity).performAll events).1
      let publisher := ((create capacity).performAll events).2
      told [.handed] history <+: told [.accepted] history
      ∧ told [.handed] history
        = told [.sent, .failed] history ++ publisher.hand.toList
      ∧ publisher.queue.length ≤ max capacity 1
      ∧ ((publisher.publish message).1 = false
        ↔ publisher.phase = .stopped ∨ publisher.queue.length = max capacity 1)
      ∧ (publisher.publish message).2.stats.dropped
        = publisher.stats.dropped + (if (publisher.publish message).1 then 0 else 1)
      ∧ publisher.stats
        = {
          sent := (told [.sent] history).length
          dropped := (told [.refused] history).length
          failed := (told [.failed] history).length
        }
      ∧ (publisher.phase ≠ .stopped
        → events.countP (·.isPublish)
          = publisher.stats.dropped + publisher.stats.sent + publisher.stats.failed
            + publisher.queue.length + publisher.hand.toList.length)
      ∧ (publisher.phase = .stopped
        → (publisher.performAll later).2.phase = .stopped
          ∧ ∀ entry ∈ (publisher.performAll later).1, entry.fate = .refused) := by
  have delivers := (delivers_create capacity).performAll events
  have offered := length_told_performAll events (create capacity)
  rw [List.nil_append] at delivers
  intro history publisher
  have full : publisher.capacity ≤ publisher.queue.length
      ↔ publisher.queue.length = max capacity 1 := by
    have room : publisher.queue.length ≤ publisher.capacity := delivers.room
    have most : publisher.capacity = max capacity 1 := delivers.capacity
    rw [most] at room ⊢
    exact room.ge_iff_eq
  refine ⟨delivers.order, delivers.settled, delivers.capacity ▸ delivers.room, ?_, ?_, ?_,
    delivers.balance offered, fun stopped => performAll_of_stopped stopped later⟩
  · by_cases refuses : publisher.Refuses
    · simpa [publish_of_refuses refuses, ← full, Refuses] using refuses
    · simpa [publish_of_room refuses, ← full] using not_or.mp refuses
  · by_cases refuses : publisher.Refuses
    · simp [publish_of_refuses refuses]
    · simp [publish_of_room refuses]
  · rw [← delivers.sent, ← delivers.dropped, ← delivers.failed]

/-- Of four messages one is refused for want of room, one is sent, one is in hand and one waits.
The one in hand fails, then the sending side stops, and the one that waits is lost.
-/
theorem run_delivers_until_stop
    : let message (topic : String) : BusMessage := ⟨topic, .empty⟩
      let busy : List PublisherEvent :=
        [.publish (message "a"), .publish (message "b"), .start true, .step fun _ => true,
          .step fun _ => true, .publish (message "c"), .step fun _ => true,
          .publish (message "d")]
      let stopping : List PublisherEvent :=
        [.ask .stop, .step fun _ => false, .step fun _ => false]
      let later : List PublisherEvent := [.publish (message "e"), .step fun _ => true]
      let history := ((create 0).performAll busy).1
      let publisher := ((create 0).performAll busy).2
      let whole := ((create 0).performAll (busy ++ stopping)).1
      let last := ((create 0).performAll (busy ++ stopping)).2
      told [.handed] history = [message "a", message "c"]
      ∧ publisher.phase ≠ .stopped
      ∧ busy.countP (·.isPublish)
        = publisher.stats.dropped + publisher.stats.sent + publisher.stats.failed
          + publisher.queue.length + publisher.hand.toList.length
      ∧ told [.accepted] whole = told [.handed] whole ++ [message "d"]
      ∧ last.phase = .stopped
      ∧ ∀ entry ∈ (last.performAll later).1, entry.fate = .refused := by
  intro message busy stopping later history publisher whole last
  have handed : told [.handed] history = [message "a", message "c"] := by decide
  have running : publisher.phase ≠ .stopped := by decide
  have lost : told [.accepted] whole = told [.handed] whole ++ [message "d"] := by decide
  have stopped : last.phase = .stopped := by decide
  -- The runs must not be run again to find the statements about them.
  clear_value busy stopping later
  obtain ⟨-, -, -, -, -, -, balance, -⟩ := run_delivers 0 busy [] (message "e")
  obtain ⟨-, -, -, -, -, -, -, ended⟩ :=
    run_delivers 0 (busy ++ stopping) later (message "e")
  exact ⟨handed, running, balance running, lost, stopped, (ended stopped).2⟩

end Publisher

end NetInventory
