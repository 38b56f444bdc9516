import Mathlib.Data.List.DropRight
import NetInventory.Bus

/-! What a bus keeps, and how a subscriber reads it. A bus keeps the latest of the messages that
were sent on it. A call of a subscriber goes on from look to look; of the messages that are kept it
skips those that are not wanted and takes the first one that is.
-/

namespace NetInventory

-----------------------------------------------------------------------------------------
-- The latest messages
-----------------------------------------------------------------------------------------

section
variable {α : Type} {list rest : List α}

theorem rtake_rtake (list : List α) (most least : Nat)
    : (list.rtake most).rtake least = list.rtake (min most least) := by
  have places : list.length - most + (list.length - (list.length - most) - least)
      = list.length - min most least := by
    omega
  simp only [List.rtake, List.drop_drop, List.length_drop, places]

theorem rtake_append_of_le (before list : List α) {count : Nat} (within : count ≤ list.length)
    : (before ++ list).rtake count = list.rtake count := by
  have places : before.length + list.length - count
      = before.length + (list.length - count) := by
    omega
  simp only [List.rtake, List.length_append, places, List.drop_length_add_append]

theorem rtake_length_of_suffix (suffix : rest <:+ list) : list.rtake rest.length = rest :=
  (List.suffix_iff_eq_drop.mp suffix).symm

end

theorem BusMessage.isWanted_iff {message : BusMessage} {starts : List String}
    : message.isWanted starts = true
      ↔ starts = [] ∨ ∃ start ∈ starts, start.toList <+: message.topic.toList := by
  simp [isWanted, List.isEmpty_iff]

namespace Bus

variable {bus : Bus} {messages : List BusMessage}

theorem le_powerAtLeast (number : Nat) : number ≤ powerAtLeast number := by
  have above : 2 * number - 1 < 2 ^ ((2 * number - 1).log2 + 1) := Nat.lt_log2_self
  rw [Nat.pow_succ] at above
  rw [powerAtLeast, Nat.one_shiftLeft]
  omega

/-- A bus on which some messages were sent keeps the latest ones of them. -/
structure Carries (bus : Bus) (messages : List BusMessage) : Prop where
  sent : bus.sent = messages.length
  kept : bus.kept = messages.rtake bus.capacity

theorem carries_create (capacity : Nat) : (create capacity).Carries [] :=
  ⟨rfl, (List.rtake_nil _).symm⟩

theorem Carries.send (carries : bus.Carries messages) (message : BusMessage)
    : (bus.send message).Carries (messages ++ [message]) where
  sent := by simp [Bus.send, carries.sent]
  kept := by
    have latest : (messages.rtake bus.capacity ++ [message]).rtake bus.capacity
        = (messages ++ [message]).rtake bus.capacity := by
      rw [← List.rtake_concat_succ, rtake_rtake, Nat.min_eq_right (Nat.le_succ _)]
    simpa [Bus.send, carries.kept, List.rtake] using latest

theorem Carries.foldl_send (carries : bus.Carries messages) (later : List BusMessage)
    : (later.foldl Bus.send bus).Carries (messages ++ later) := by
  induction later generalizing bus messages with
  | nil => simpa using carries
  | cons message rest ih => simpa using ih (carries.send message)

theorem capacity_foldl_send (bus : Bus) (messages : List BusMessage)
    : (messages.foldl Bus.send bus).capacity = bus.capacity := by
  induction messages generalizing bus with
  | nil => rfl
  | cons message rest ih => exact ih (bus.send message)

/-- Of the messages from a place on the latest ones are still there. -/
theorem Carries.unread_eq (carries : bus.Carries messages) (position : Nat)
    : bus.unread position = (messages.rtake (bus.sent - position)).rtake bus.capacity := by
  rw [rtake_rtake, Nat.min_comm, ← rtake_rtake, ← carries.kept]
  rfl

theorem length_unread_le (bus : Bus) (position : Nat)
    : (bus.unread position).length ≤ bus.sent - position := by
  simp only [unread, List.length_drop]
  omega

end Bus

-----------------------------------------------------------------------------------------
-- One look and one call
-----------------------------------------------------------------------------------------

namespace Subscription

variable {bus : Bus} {subscription : Subscription}

/-- The subscription that has a number of messages in front of it. -/
def leave (bus : Bus) (count : Nat) (subscription : Subscription) : Subscription :=
  { subscription with position := bus.sent - count }

/-- What a look can come to. -/
inductive Looked (bus : Bus) (subscription : Subscription)
    : Option (Option BusMessage × Subscription) → Prop
  | nothing (read : bus.unread subscription.position = []) : Looked bus subscription none
  | lagged
    (lost : subscription.position < bus.sent - (bus.unread subscription.position).length)
    : Looked bus subscription
        (some (none, subscription.leave bus (bus.unread subscription.position).length))
  | met {message rest}
    (kept : bus.sent ≤ subscription.position + (bus.unread subscription.position).length)
    (next : bus.unread subscription.position = message :: rest)
    : Looked bus subscription
        (some
          (if message.isWanted subscription.starts then some message else none,
            subscription.leave bus rest.length))

theorem looked_look? (bus : Bus) (subscription : Subscription)
    : Looked bus subscription (subscription.look? bus) := by
  have front := bus.length_unread_le subscription.position
  unfold look?
  split
  next read => exact .nothing read
  next message rest next =>
    have length : (bus.unread subscription.position).length = rest.length + 1 := by
      rw [next, List.length_cons]
    have oldest : bus.sent - rest.length - 1
        = bus.sent - (bus.unread subscription.position).length := by
      omega
    have behind : bus.sent - rest.length - 1 + 1 = bus.sent - rest.length := by omega
    dsimp only
    split
    next lost =>
      rw [oldest] at lost ⊢
      exact .lagged lost
    next here =>
      rw [behind]
      refine .met ?_ next
      omega

/-- The messages in front of a subscription are those that it has left in front of it. -/
theorem unread_leave {rest : List BusMessage}
    (suffix : rest <:+ bus.unread subscription.position)
    : bus.unread (subscription.leave bus rest.length).position = rest := by
  have few : rest.length ≤ bus.sent :=
    (suffix.length_le.trans (bus.length_unread_le _)).trans (Nat.sub_le _ _)
  simp only [leave, Bus.unread, Nat.sub_sub_self few]
  exact rtake_length_of_suffix (suffix.trans (List.drop_suffix _ _))

/-- A call begins with a look, and goes on as long as nothing is taken. -/
theorem receive_eq_look? (bus : Bus) (subscription : Subscription)
    : subscription.receive bus
      = match subscription.look? bus with
        | none => (none, subscription.leave bus 0)
        | some (none, next) => next.receive bus
        | some (some message, next) => (some message, next) := by
  have looked := looked_look? bus subscription
  generalize subscription.look? bus = found at looked
  cases looked with
  | nothing read => simp [receive, read, leave]
  | lagged _ =>
      have same : bus.unread
          (subscription.leave bus (bus.unread subscription.position).length).position
          = bus.unread subscription.position :=
        unread_leave List.suffix_rfl
      simp only [receive, same]
      rfl
  | @met message rest _ next =>
      have ahead := unread_leave (next ▸ List.suffix_cons message rest)
      by_cases wanted : message.isWanted subscription.starts = true
      · simp [receive, next, wanted, leave]
      · simp only [if_neg wanted, receive, ahead, next]
        simp [wanted, leave]

theorem unread_of_look? (found : subscription.look? bus = none)
    : bus.unread subscription.position = [] := by
  unfold look? at found
  split at found
  next read => exact read
  next => simp at found

/-- A look at a message leads further on. -/
theorem position_lt_of_look? {outcome : Option BusMessage × Subscription}
    (found : subscription.look? bus = some outcome)
    : subscription.position < outcome.2.position := by
  have looked := looked_look? bus subscription
  have front := bus.length_unread_le subscription.position
  rw [found] at looked
  cases looked with
  | lagged lost => exact lost
  | @met message rest _ next =>
      rw [next, List.length_cons] at front
      simp only [leave]
      omega

/-- Of the messages that are kept some that are not wanted were skipped, and then one that is wanted
may have been taken; the rest is left.
-/
structure Passes (bus : Bus) (subscription : Subscription) (skipped rest : List BusMessage)
    (outcome : Option BusMessage × Subscription) : Prop where
  unread : bus.unread subscription.position = skipped ++ outcome.1.toList ++ rest
  unwanted : ∀ message ∈ skipped, message.isWanted subscription.starts = false
  wanted : ∀ message ∈ outcome.1, message.isWanted subscription.starts = true
  place : outcome.2 = subscription.leave bus rest.length

theorem exists_passes_of_look? {outcome : Option BusMessage × Subscription}
    (found : subscription.look? bus = some outcome)
    : ∃ skipped rest, subscription.Passes bus skipped rest outcome := by
  have looked := looked_look? bus subscription
  rw [found] at looked
  cases looked with
  | lagged _ => exact ⟨[], _, rfl, nofun, nofun, rfl⟩
  | @met message rest _ next =>
      by_cases wanted : message.isWanted subscription.starts = true
      · simp only [if_pos wanted]
        exact ⟨[], rest, next, nofun, by simpa using wanted, rfl⟩
      · simp only [if_neg wanted]
        exact ⟨[message], rest, next, by simpa using wanted, nofun, rfl⟩

/-- A whole call goes on to the first message that is kept and wanted, or else to the end. -/
theorem exists_passes_receive (bus : Bus) (subscription : Subscription)
    : ∃ skipped rest,
        subscription.Passes bus skipped rest (subscription.receive bus)
        ∧ ((subscription.receive bus).1 = none → rest = []) := by
  let unwanted (message : BusMessage) : Bool := !message.isWanted subscription.starts
  let waiting := bus.unread subscription.position
  have split : waiting.takeWhile unwanted ++ waiting.dropWhile unwanted = waiting :=
    List.takeWhile_append_dropWhile
  have skips : ∀ message ∈ waiting.takeWhile unwanted,
      message.isWanted subscription.starts = false := by
    intro message member
    simpa [unwanted] using List.mem_takeWhile_imp member
  unfold receive
  split
  next none =>
    refine ⟨waiting.takeWhile unwanted, [], ⟨?_, skips, nofun, rfl⟩, fun _ => rfl⟩
    rw [List.append_nil]
    exact split.symm.trans (congrArg _ none)
  next message rest ahead =>
    have first := List.head?_dropWhile_not unwanted waiting
    have wanted : message.isWanted subscription.starts = true := by
      rw [show waiting.dropWhile unwanted = message :: rest from ahead] at first
      simpa [unwanted] using first
    refine ⟨waiting.takeWhile unwanted, rest, ⟨?_, skips, by simpa using wanted, rfl⟩, nofun⟩
    rw [List.append_assoc]
    exact split.symm.trans (congrArg _ ahead)

end Subscription

end NetInventory
