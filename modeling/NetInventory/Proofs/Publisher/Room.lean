import NetInventory.Proofs.Publisher.Delivery

/-! Room in the queue of a publisher. Of messages that are offered at one time as many are accepted
as there is room for, in their order, and the others are dropped and counted.
-/

namespace NetInventory.Publisher

/-- How many messages are accepted until one of them is taken up. -/
def room (publisher : Publisher) : Nat :=
  if publisher.phase = .stopped then 0 else publisher.capacity - publisher.queue.length

/-- Offers messages one after the other. -/
def offer (messages : List BusMessage) (publisher : Publisher) : Publisher :=
  messages.foldl (fun publisher message => (publisher.publish message).2) publisher

variable {publisher : Publisher}

theorem refuses_iff_room_eq_zero : publisher.Refuses ↔ publisher.room = 0 := by
  unfold Refuses room
  split
  next stopped => simp [stopped]
  next runs => simp [runs, Nat.sub_eq_zero_iff_le]

theorem room_counted (publisher : Publisher) (stats : PublisherStats)
    : room { publisher with stats } = publisher.room :=
  rfl

/-- An accepted message takes up room for one. -/
theorem room_append (accepts : ¬ publisher.Refuses) (message : BusMessage)
    : publisher.room = room { publisher with queue := publisher.queue ++ [message] } + 1 := by
  obtain ⟨runs, free⟩ := not_or.mp accepts
  simp only [room, runs, if_false, List.length_append, List.length_singleton]
  omega

/-- Of the messages that are offered those for which there is room go into the queue, and the others
are counted, by induction on the messages.
-/
theorem offer_eq (messages : List BusMessage) (publisher : Publisher)
    : publisher.offer messages
      = { publisher with
        queue := publisher.queue ++ messages.take publisher.room
        stats :=
          { publisher.stats with
            dropped := publisher.stats.dropped + (messages.length - publisher.room) } } := by
  induction messages generalizing publisher with
  | nil => simp [offer]
  | cons message rest ih =>
      have first : publisher.offer (message :: rest) = (publisher.publish message).2.offer rest :=
        rfl
      by_cases refuses : publisher.Refuses
      · have full := refuses_iff_room_eq_zero.mp refuses
        rw [first, publish_of_refuses refuses, ih, room_counted, full]
        simp [Nat.add_assoc, Nat.add_comm 1]
      · have taken := room_append refuses message
        rw [first, publish_of_room refuses, ih, taken]
        simp [Nat.add_sub_add_right]

end NetInventory.Publisher
