import Mathlib.Data.List.Infix
import NetInventory.Proofs.Bus.Reading

/-! What a subscriber sees of a bus, however those who send and the subscriber take turns. A bus
keeps the latest messages, wanted or not. A subscriber that is no further behind than that receives
every message that it wants, once and in order; one that is further behind loses the oldest messages
in front of it and goes on with the next one that is kept.
-/

namespace NetInventory

/-- What happens on a bus that a subscriber follows. -/
inductive BusEvent where
  /-- A message is sent, by whomever. -/
  | send (message : BusMessage)
  /-- The subscriber looks at one message. A call takes as many looks as it needs, and others may
  send between them.
  -/
  | look
  /-- The subscriber makes a whole call, and nothing else happens meanwhile. -/
  | receive

/-- The message that is sent. -/
def BusEvent.sent? : BusEvent → Option BusMessage
  | send message => some message
  | look | receive => none

/-- A subscriber and its bus, with the messages that were sent since it subscribed and those that it
received, in their order.
-/
structure Following where
  bus : Bus
  subscription : Subscription
  sent : List BusMessage
  received : List BusMessage

namespace Following

/-- A subscriber that begins to follow a bus. -/
def start (bus : Bus) (starts : List String) : Following :=
  ⟨bus, .subscribe bus starts, [], []⟩

/-- The number of messages that the subscriber has not come past. -/
def behind (following : Following) : Nat :=
  following.bus.sent - following.subscription.position

/-- The messages that the subscriber has not come past, whether they are kept or not. -/
def unread (following : Following) : List BusMessage :=
  following.sent.rtake following.behind

/-- The subscriber goes to another place, and may have received a message. -/
def goOn (message? : Option BusMessage) (subscription : Subscription) (following : Following)
    : Following :=
  { following with subscription, received := following.received ++ message?.toList }

/-- What is so after an event. -/
def perform (event : BusEvent) (following : Following) : Following :=
  match event with
  | .send message =>
      { following with
        bus := following.bus.send message
        sent := following.sent ++ [message] }
  | .look =>
      match following.subscription.look? following.bus with
      | some (message?, subscription) => following.goOn message? subscription
      | none => following
  | .receive =>
      let (message?, subscription) := following.subscription.receive following.bus
      following.goOn message? subscription

/-- What is so after a run. -/
def performAll : List BusEvent → Following → Following
  | [], following => following
  | event :: rest, following => (following.perform event).performAll rest

variable {capacity : Nat} {starts : List String} {earlier : List BusMessage}
  {following next : Following}

/-- The messages in front of the subscriber that are kept. -/
def waiting (following : Following) : List BusMessage :=
  following.bus.unread following.subscription.position

-----------------------------------------------------------------------------------------
-- The place of the subscriber
-----------------------------------------------------------------------------------------

/-- The bus keeps enough of the messages that were sent before and after someone subscribed, and the
subscriber stands among the latter.
-/
structure Placed (capacity : Nat) (starts : List String) (earlier : List BusMessage)
    (following : Following) : Prop where
  room : max capacity 1 ≤ following.bus.capacity
  carries : following.bus.Carries (earlier ++ following.sent)
  starts : following.subscription.starts = starts
  after : earlier.length ≤ following.subscription.position
  within : following.subscription.position ≤ following.bus.sent

theorem placed_start (capacity : Nat) (starts : List String) (earlier : List BusMessage)
    : Placed capacity starts earlier
        (start (earlier.foldl Bus.send (.create capacity)) starts) := by
  have carries : (earlier.foldl Bus.send (.create capacity)).Carries earlier :=
    (Bus.carries_create capacity).foldl_send earlier
  constructor
  case room =>
    rw [start, Bus.capacity_foldl_send]
    exact Bus.le_powerAtLeast _
  case carries => simpa [start] using carries
  case starts => rfl
  case after => exact carries.sent.ge
  case within => exact le_rfl

theorem Placed.sent_eq (placed : Placed capacity starts earlier following)
    : following.bus.sent = earlier.length + following.sent.length := by
  rw [placed.carries.sent, List.length_append]

theorem Placed.behind_le (placed : Placed capacity starts earlier following)
    : following.behind ≤ following.sent.length := by
  have sent := placed.sent_eq
  have after := placed.after
  unfold behind
  omega

theorem Placed.length_unread (placed : Placed capacity starts earlier following)
    : following.unread.length = following.behind := by
  have within := placed.behind_le
  simp only [unread, List.rtake, List.length_drop]
  omega

/-- The latest of the messages in front of the subscriber are kept. -/
theorem Placed.waiting_eq (placed : Placed capacity starts earlier following)
    : following.waiting = following.unread.rtake following.bus.capacity := by
  have own : (earlier ++ following.sent).rtake following.behind = following.unread :=
    rtake_append_of_le _ _ placed.behind_le
  rw [waiting, placed.carries.unread_eq, ← own]
  rfl

/-- If some of the messages in front of the subscriber are lost, then the oldest ones, and what is
left of them is all that the bus keeps.
-/
theorem Placed.exists_lost (placed : Placed capacity starts earlier following)
    : ∃ lost,
        following.unread = lost ++ following.waiting
        ∧ (lost ≠ []
          → following.waiting = following.bus.kept ∧ capacity ≤ following.bus.kept.length) := by
  refine ⟨following.unread.rdrop following.bus.capacity, ?_, fun lost => ?_⟩
  · rw [placed.waiting_eq]
    exact (List.take_append_drop _ _).symm
  · have long : following.bus.capacity < following.unread.length := by
      by_contra short
      exact lost (by simp [List.rdrop, Nat.sub_eq_zero_of_le (not_lt.mp short)])
    rw [placed.length_unread] at long
    constructor
    · rw [waiting, placed.carries.unread_eq, rtake_rtake, placed.carries.kept]
      exact congrArg _ (Nat.min_eq_right long.le)
    · have room := placed.room
      have within := placed.behind_le
      rw [placed.carries.kept]
      simp only [List.rtake, List.length_drop, List.length_append]
      omega

/-- A subscriber that finds nothing has come past everything: the bus has room for a message. -/
theorem Placed.position_of_waiting (placed : Placed capacity starts earlier following)
    (none : following.waiting = [])
    : following.subscription.position = following.bus.sent := by
  have lengths := congrArg List.length none
  have front := placed.length_unread
  have room := placed.room
  have within := placed.within
  rw [placed.waiting_eq] at lengths
  simp only [List.rtake, List.length_drop, List.length_nil, front] at lengths
  unfold behind at lengths
  omega

/-- A subscriber that goes on with some of the messages in front of it has exactly those in front of
it afterwards.
-/
theorem Placed.leave (placed : Placed capacity starts earlier following) {rest : List BusMessage}
    (suffix : rest <:+ following.unread) {message? : Option BusMessage}
    (goes
      : next
        = following.goOn message? (following.subscription.leave following.bus rest.length))
    : Placed capacity starts earlier next ∧ next.unread = rest := by
  have few : rest.length ≤ following.sent.length := by
    have short := suffix.length_le
    rw [placed.length_unread] at short
    exact short.trans placed.behind_le
  have sent := placed.sent_eq
  subst next
  constructor
  · refine ⟨placed.room, placed.carries, placed.starts, ?_, ?_⟩
    · simp only [goOn, Subscription.leave]
      omega
    · exact Nat.sub_le _ _
  · have front : (following.goOn message?
        (following.subscription.leave following.bus rest.length)).behind = rest.length := by
      simp only [behind, goOn, Subscription.leave]
      omega
    have whole : rest <:+ following.sent := suffix.trans (List.drop_suffix _ _)
    rw [unread, front]
    exact rtake_length_of_suffix whole

/-- A message that is sent stands behind those in front of the subscriber. -/
theorem Placed.send (placed : Placed capacity starts earlier following) (message : BusMessage)
    : Placed capacity starts earlier (following.perform (.send message))
      ∧ (following.perform (.send message)).unread = following.unread ++ [message] := by
  constructor
  · refine ⟨placed.room, ?_, placed.starts, placed.after, ?_⟩
    · simpa [perform] using placed.carries.send message
    · exact placed.within.trans (Nat.le_succ _)
  · have front : (following.perform (.send message)).behind = following.behind + 1 :=
      Nat.sub_add_comm placed.within
    rw [unread, front]
    exact List.rtake_concat_succ _ _ _

-----------------------------------------------------------------------------------------
-- One event
-----------------------------------------------------------------------------------------

/-- How a subscriber goes on: it skips messages that it does not want, and then it may take one that
it wants. Some of the oldest messages in front of it may be lost; then it goes on with the first one
that the bus keeps, and the bus keeps as many as the capacity.
-/
structure Resumes (capacity : Nat) (starts : List String) (before after : Following)
    (lost skipped : List BusMessage) (taken : Option BusMessage) : Prop where
  sent : after.sent = before.sent
  unread : before.unread = lost ++ (skipped ++ taken.toList ++ after.unread)
  received : after.received = before.received ++ taken.toList
  kept
    : lost ≠ []
      → skipped ++ taken.toList ++ after.unread = before.bus.kept
        ∧ capacity ≤ before.bus.kept.length
  unwanted : ∀ message ∈ skipped, message.isWanted starts = false
  wanted : ∀ message ∈ taken, message.isWanted starts = true

theorem Placed.resumes (placed : Placed capacity starts earlier following)
    {skipped rest : List BusMessage} {outcome : Option BusMessage × Subscription}
    (passes : following.subscription.Passes following.bus skipped rest outcome)
    : Placed capacity starts earlier (following.goOn outcome.1 outcome.2)
      ∧ (following.goOn outcome.1 outcome.2).unread = rest
      ∧ ∃ lost,
          Resumes capacity starts following (following.goOn outcome.1 outcome.2) lost skipped
            outcome.1 := by
  obtain ⟨lost, unread, room⟩ := placed.exists_lost
  obtain ⟨waits, unwanted, wanted, place⟩ := passes
  rw [placed.starts] at unwanted wanted
  rw [waiting, waits] at unread room
  have suffix : rest <:+ following.unread :=
    ⟨lost ++ (skipped ++ outcome.1.toList), by rw [unread, List.append_assoc]⟩
  have goes : following.goOn outcome.1 outcome.2
      = following.goOn outcome.1 (following.subscription.leave following.bus rest.length) := by
    rw [place]
  obtain ⟨placedNext, front⟩ := placed.leave suffix goes
  refine ⟨placedNext, front, lost, rfl, ?_, rfl, ?_, unwanted, wanted⟩
  · rw [front, unread]
  · rwa [front]

theorem Placed.look (placed : Placed capacity starts earlier following)
    : Placed capacity starts earlier (following.perform .look)
      ∧ ∃ lost skipped taken,
          Resumes capacity starts following (following.perform .look) lost skipped taken := by
  cases found : following.subscription.look? following.bus with
  | none =>
      have same : following.perform .look = following := by simp [perform, found]
      rw [same]
      exact ⟨placed, [], [], none, rfl, by simp, by simp, nofun, nofun, nofun⟩
  | some outcome =>
      have goes : following.perform .look = following.goOn outcome.1 outcome.2 := by
        simp [perform, found]
      obtain ⟨skipped, rest, passes⟩ :=
        Subscription.exists_passes_of_look? found
      obtain ⟨placedNext, -, lost, resumes⟩ := placed.resumes passes
      rw [goes]
      exact ⟨placedNext, lost, skipped, outcome.1, resumes⟩

/-- A look at a message comes past it, or past lost ones. -/
theorem Placed.fewer_of_look? (placed : Placed capacity starts earlier following)
    {outcome : Option BusMessage × Subscription}
    (found : following.subscription.look? following.bus = some outcome)
    : (following.perform .look).unread.length < following.unread.length := by
  have placedNext := placed.look.1
  have within := placedNext.within
  have further := Subscription.position_lt_of_look? found
  rw [placedNext.length_unread, placed.length_unread]
  simp only [perform, found, goOn, behind] at within ⊢
  omega

theorem Placed.fewer_of_look (placed : Placed capacity starts earlier following)
    (more : following.unread ≠ [])
    : (following.perform .look).unread.length < following.unread.length := by
  cases found : following.subscription.look? following.bus with
  | some outcome => exact placed.fewer_of_look? found
  | none =>
      have place := placed.position_of_waiting (Subscription.unread_of_look? found)
      have front := placed.length_unread
      have positive := List.length_pos_iff.mpr more
      unfold behind at front
      omega

/-- After a call that gives nothing there is nothing in front of the subscriber. -/
theorem Placed.receive (placed : Placed capacity starts earlier following)
    : Placed capacity starts earlier (following.perform .receive)
      ∧ ∃ lost skipped taken,
          Resumes capacity starts following (following.perform .receive) lost skipped taken
          ∧ (taken = none → (following.perform .receive).unread = []) := by
  obtain ⟨skipped, rest, passes, last⟩ :=
    Subscription.exists_passes_receive following.bus following.subscription
  obtain ⟨placedNext, front, lost, resumes⟩ := placed.resumes passes
  exact ⟨placedNext, lost, skipped, _, resumes, fun nothing => front.trans (last nothing)⟩

-----------------------------------------------------------------------------------------
-- Runs
-----------------------------------------------------------------------------------------

/-- What an event can do to a subscriber. -/
inductive Moves (capacity : Nat) (starts : List String) (before after : Following) : Prop
  | sends {message : BusMessage}
    (sent : after.sent = before.sent ++ [message])
    (unread : after.unread = before.unread ++ [message])
    (received : after.received = before.received)
    : Moves capacity starts before after
  | goesOn {lost skipped : List BusMessage} {taken : Option BusMessage}
    (resumes : Resumes capacity starts before after lost skipped taken)
    : Moves capacity starts before after

theorem Placed.perform (placed : Placed capacity starts earlier following) (event : BusEvent)
    : Placed capacity starts earlier (following.perform event)
      ∧ Moves capacity starts following (following.perform event) := by
  cases event with
  | send message =>
      obtain ⟨placedNext, unread⟩ := placed.send message
      exact ⟨placedNext, .sends rfl unread rfl⟩
  | look =>
      obtain ⟨placedNext, _, _, _, resumes⟩ := placed.look
      exact ⟨placedNext, .goesOn resumes⟩
  | receive =>
      obtain ⟨placedNext, _, _, _, resumes, _⟩ := placed.receive
      exact ⟨placedNext, .goesOn resumes⟩

theorem Placed.performAll (placed : Placed capacity starts earlier following)
    (events : List BusEvent)
    : Placed capacity starts earlier (following.performAll events) := by
  induction events generalizing following with
  | nil => exact placed
  | cons event rest ih => exact ih (placed.perform event).1

theorem sent_performAll (events : List BusEvent) (following : Following)
    : (following.performAll events).sent
      = following.sent ++ events.filterMap (·.sent?) := by
  induction events generalizing following with
  | nil => simp [performAll]
  | cons event rest ih =>
      rw [performAll, ih]
      cases event with
      | send message => simp [Following.perform, BusEvent.sent?]
      | look =>
          simp only [Following.perform]
          split <;> simp [goOn, BusEvent.sent?]
      | receive => simp [Following.perform, goOn, BusEvent.sent?]

/-- What was received and what is wanted of the messages in front of the subscriber stands in the
order in which it was sent.
-/
def InOrder (starts : List String) (following : Following) : Prop :=
  (following.received ++ following.unread.filter (·.isWanted starts)).Sublist
    (following.sent.filter (·.isWanted starts))

/-- Nothing that is wanted is missing. -/
def Whole (starts : List String) (following : Following) : Prop :=
  following.received ++ following.unread.filter (·.isWanted starts)
  = following.sent.filter (·.isWanted starts)

theorem whole_start (bus : Bus) (starts : List String) : Whole starts (start bus starts) := by
  simp [Whole, start, unread]

theorem Whole.inOrder (whole : Whole starts following) : InOrder starts following := by
  rw [InOrder, whole]

variable {lost skipped : List BusMessage} {taken : Option BusMessage}

/-- What is kept in front of a subscriber holds the message that it takes and what is wanted of the
messages behind.
-/
theorem Resumes.filter_kept (resumes : Resumes capacity starts following next lost skipped taken)
    : (skipped ++ taken.toList ++ next.unread).filter (·.isWanted starts)
      = taken.toList ++ next.unread.filter (·.isWanted starts) := by
  have skips : skipped.filter (·.isWanted starts) = [] := by
    rw [List.filter_eq_nil_iff]
    intro message member
    simp [resumes.unwanted message member]
  have takes : taken.toList.filter (·.isWanted starts) = taken.toList := by
    rw [List.filter_eq_self]
    intro message member
    exact resumes.wanted message (by simpa using member)
  rw [List.filter_append, List.filter_append, skips, takes, List.nil_append]

theorem InOrder.moves (ordered : InOrder starts following)
    (moves : Moves capacity starts following next)
    : InOrder starts next := by
  unfold InOrder at ordered ⊢
  cases moves with
  | sends sent unread received =>
      rw [sent, unread, received, List.filter_append, List.filter_append, ← List.append_assoc]
      exact ordered.append_right _
  | @goesOn lost skipped taken resumes =>
      have kept : (skipped ++ taken.toList ++ next.unread).Sublist following.unread :=
        resumes.unread ▸ List.sublist_append_right lost _
      rw [resumes.sent, resumes.received, List.append_assoc, ← resumes.filter_kept]
      exact ((kept.filter _).append_left _).trans ordered

theorem InOrder.performAll (ordered : InOrder starts following)
    (placed : Placed capacity starts earlier following) (events : List BusEvent)
    : InOrder starts (following.performAll events) := by
  induction events generalizing following with
  | nil => exact ordered
  | cons event rest ih =>
      obtain ⟨placedNext, moves⟩ := placed.perform event
      exact ih (ordered.moves moves) placedNext

theorem Resumes.lost_eq_nil (resumes : Resumes capacity starts following next lost skipped taken)
    (near : following.unread.length ≤ capacity)
    : lost = [] := by
  by_contra some
  obtain ⟨kept, room⟩ := resumes.kept some
  have positive : 0 < lost.length := List.length_pos_iff.mpr some
  rw [resumes.unread, kept, List.length_append] at near
  omega

theorem Whole.moves (whole : Whole starts following)
    (moves : Moves capacity starts following next) (near : following.unread.length ≤ capacity)
    : Whole starts next := by
  unfold Whole at whole ⊢
  cases moves with
  | sends sent unread received =>
      rw [sent, unread, received, List.filter_append, List.filter_append, ← List.append_assoc,
        whole]
  | @goesOn lost skipped taken resumes =>
      have kept : skipped ++ taken.toList ++ next.unread = following.unread := by
        rw [resumes.unread, resumes.lost_eq_nil near, List.nil_append]
      rw [resumes.sent, resumes.received, List.append_assoc, ← resumes.filter_kept, kept, whole]

/-- A subscriber that is never too far behind misses nothing, by induction on the events. -/
theorem Whole.performAll (whole : Whole starts following)
    (placed : Placed capacity starts earlier following) {events : List BusEvent}
    (near
      : ∀ before, before <+: events → (following.performAll before).unread.length ≤ capacity)
    : Whole starts (following.performAll events) := by
  induction events generalizing following with
  | nil => exact whole
  | cons event rest ih =>
      obtain ⟨placedNext, moves⟩ := placed.perform event
      apply ih (whole.moves moves (near [] List.nil_prefix)) placedNext
      intro before among
      exact near (event :: before) (List.cons_prefix_cons.mpr ⟨rfl, among⟩)

/-- A subscriber that misses nothing receives everything that it wants by as many calls as there are
messages in front of it, by induction on their number.
-/
theorem Whole.received_receives (whole : Whole starts following)
    (placed : Placed capacity starts earlier following)
    (near : following.unread.length ≤ capacity) {count : Nat}
    (enough : following.unread.length ≤ count)
    : (following.performAll (List.replicate count .receive)).received
      = following.sent.filter (·.isWanted starts) := by
  induction count generalizing following with
  | zero =>
      have none : following.unread = [] := List.eq_nil_of_length_eq_zero (Nat.le_zero.mp enough)
      unfold Whole at whole
      rwa [none, List.filter_nil, List.append_nil] at whole
  | succ count ih =>
      obtain ⟨placedNext, lost, skipped, taken, resumes, last⟩ := placed.receive
      have lengths := congrArg List.length resumes.unread
      simp only [List.length_append] at lengths
      have fewer : (following.perform .receive).unread.length ≤ count := by
        cases taken with
        | none => simp [last rfl]
        | some message =>
            rw [Option.toList_some, List.length_singleton] at lengths
            omega
      rw [List.replicate_succ, Following.performAll, ← resumes.sent]
      apply ih (whole.moves (.goesOn resumes) near) placedNext _ fewer
      omega

/-- A call is over where it finds nothing or takes a message; else it goes on after its look. -/
theorem Placed.perform_receive (placed : Placed capacity starts earlier following)
    : following.perform .receive
      = match following.subscription.look? following.bus with
        | none => following
        | some (some _, _) => following.perform .look
        | some (none, _) => (following.perform .look).perform .receive := by
  have call := following.subscription.receive_eq_look? following.bus
  cases found : following.subscription.look? following.bus with
  | none =>
      have place := placed.position_of_waiting (Subscription.unread_of_look? found)
      rw [found] at call
      simp only [Following.perform, call]
      simp [Subscription.leave, goOn, ← place]
  | some outcome =>
      obtain ⟨message?, subscription⟩ := outcome
      rw [found] at call
      cases message? with
      | none => simp [Following.perform, found, call, goOn]
      | some message => simp only [Following.perform, found, call]

/-- A call is a number of looks, by induction on the number of messages in front of the subscriber.
-/
theorem Placed.exists_looks (placed : Placed capacity starts earlier following)
    : ∃ count,
        following.perform .receive = following.performAll (List.replicate count .look) := by
  induction size : following.unread.length using Nat.strong_induction_on
    generalizing following with
  | h number ih =>
      have call := placed.perform_receive
      cases found : following.subscription.look? following.bus with
      | none =>
          rw [found] at call
          exact ⟨0, call⟩
      | some outcome =>
          have fewer := placed.fewer_of_look? found
          obtain ⟨message?, subscription⟩ := outcome
          rw [found] at call
          cases message? with
          | some message => exact ⟨1, call⟩
          | none =>
              obtain ⟨count, later⟩ := ih _ (size ▸ fewer) placed.look.1 rfl
              exact ⟨count + 1, call.trans later⟩

/-- However those who send and the subscriber take turns, the subscriber receives messages that were
sent since it subscribed and that it wants, each once and in the order in which they were sent. One
that never has more messages in front of it than the capacity receives all of them, by as many calls
as it takes. One that has more may lose the oldest ones with a look, or with the looks that make a
call, and goes on with the next one that is kept; it never stays where it is while there are
messages in front of it.
-/
theorem run_receives (capacity : Nat) (starts : List String) (earlier : List BusMessage)
    (events : List BusEvent)
    : let first := start (earlier.foldl Bus.send (.create capacity)) starts
      let now := first.performAll events
      (∀ message : BusMessage,
        message.isWanted starts = true
        ↔ starts = [] ∨ ∃ start ∈ starts, start.toList <+: message.topic.toList)
      ∧ now.sent = events.filterMap (·.sent?)
      ∧ now.received.Sublist (now.sent.filter (·.isWanted starts))
      ∧ ((∀ before, before <+: events → (first.performAll before).unread.length ≤ capacity)
        → now.received ++ now.unread.filter (·.isWanted starts)
            = now.sent.filter (·.isWanted starts)
          ∧ (now.performAll (List.replicate now.unread.length .receive)).received
            = now.sent.filter (·.isWanted starts))
      ∧ (∃ lost skipped taken,
        Resumes capacity starts now (now.perform .look) lost skipped taken)
      ∧ (now.unread ≠ [] → (now.perform .look).unread.length < now.unread.length)
      ∧ (∃ lost skipped taken,
        Resumes capacity starts now (now.perform .receive) lost skipped taken
        ∧ (taken = none → (now.perform .receive).unread = []))
      ∧ ∃ count, now.perform .receive = now.performAll (List.replicate count .look) := by
  intro first now
  have begins : Placed capacity starts earlier first := placed_start capacity starts earlier
  have placed : Placed capacity starts earlier now := begins.performAll events
  have wholeFirst : Whole starts first := whole_start _ starts
  have ordered : InOrder starts now := wholeFirst.inOrder.performAll begins events
  refine ⟨fun _ => BusMessage.isWanted_iff, sent_performAll events first,
    (List.sublist_append_left _ _).trans ordered, fun near => ?_, placed.look.2,
    placed.fewer_of_look, placed.receive.2, placed.exists_looks⟩
  have whole : Whole starts now := wholeFirst.performAll begins near
  exact ⟨whole, whole.received_receives placed (near events List.prefix_rfl) le_rfl⟩

/-- A subscriber to one of two topics, on a bus that keeps two messages, receives all of its
messages in between and after those who send; of four messages that are sent without it the first
two are lost, and it goes on with the last one.
-/
theorem run_receives_lagging
    : let message (topic : String) : BusMessage := ⟨topic, .empty⟩
      let first := start ([message "a"].foldl Bus.send (.create 2)) ["a"]
      let events : List BusEvent :=
        [.send (message "b"), .send (message "a1"), .receive, .send (message "a2"), .look,
          .send (message "b"), .send (message "a3")]
      let now := first.performAll events
      let behind := now.performAll [.send (message "b"), .send (message "a4")]
      (∀ before, before <+: events → (first.performAll before).unread.length ≤ 2)
      ∧ now.received = [message "a1", message "a2"]
      ∧ now.unread = [message "b", message "a3"]
      ∧ (now.performAll (List.replicate now.unread.length .receive)).received
        = [message "a1", message "a2", message "a3"]
      ∧ (behind.perform .receive).received = [message "a1", message "a2", message "a4"] := by
  intro message first events now behind
  have near : ∀ before, before <+: events → (first.performAll before).unread.length ≤ 2 := by
    have each : ∀ before ∈ events.inits, (first.performAll before).unread.length ≤ 2 := by decide
    exact fun before among => each before ((List.mem_inits _ _).mpr among)
  obtain ⟨-, sent, -, whole, -⟩ := run_receives 2 ["a"] [message "a"] events
  refine ⟨near, by decide, by decide, ?_, by decide⟩
  rw [(whole near).2, sent]
  decide

end Following

end NetInventory
