import Mathlib.Data.List.Infix
import NetInventory.Proofs.Ingest.Loop

/-! What replies of ingestion tell of. Messages are handled in the order in which they entered the
queue, and a request is answered only after all that had entered before it, however ingestion at
work and those who submit messages take turns.
-/

namespace NetInventory

theorem Ingest.performAll_concat (tasks : List IngestTask) (task : IngestTask)
    (ingest : Ingest)
    : (ingest.performAll (tasks ++ [task])).2 = ((ingest.performAll tasks).2.perform task).2 := by
  induction tasks generalizing ingest with
  | nil => rfl
  | cons first rest ih => exact ih (ingest.perform first).2

/-- Each way of handling a message counts its receipt once. -/
theorem Ingest.received_handle (instant : Int) (message : BusMessage) (ingest : Ingest)
    : (ingest.handle instant message).2.stats.received = ingest.stats.received + 1 := by
  have way := handled_handle instant message ingest
  generalize ingest.handle instant message = result at way ⊢
  obtain ⟨effects, next⟩ := result
  cases way <;> rfl

namespace IngestLoop

variable {start : Ingest} {history earlier entries : List Entry} {loop next : IngestLoop}
  {request : IngestRequest} {left : Nat}

-----------------------------------------------------------------------------------------
-- Requests that are taken up
-----------------------------------------------------------------------------------------

/-- A request that was made when the history was as `earlier` says is the one to be answered next,
and all that had entered before it is handled as soon as some more messages are.
-/
structure Due (request : IngestRequest) (left : Nat) (history earlier : List Entry) : Prop where
  asked : earlier ++ [.asked request] <+: history
  next
    : (earlier.filterMap Entry.asked?).length = (history.filterMap Entry.replied?).length
  entered
    : (earlier.filterMap Entry.entered?).length
      ≤ (history.filterMap Entry.handled?).length + left

/-- A due request stays due until the next reply, for so many messages less as are handled. -/
theorem Due.append {less : Nat} (due : Due request left history earlier)
    (unanswered : entries.filterMap Entry.replied? = [])
    (counted : left ≤ (entries.filterMap Entry.handled?).length + less)
    : Due request less (history ++ entries) earlier where
  asked := due.asked.trans (List.prefix_append _ _)
  next := by simpa [unanswered] using due.next
  entered := by
    have entered := due.entered
    simp only [List.filterMap_append, List.length_append]
    omega

theorem Due.prefix_entered (due : Due request left history earlier)
    : earlier.filterMap Entry.entered? <+: history.filterMap Entry.entered? :=
  ((List.prefix_append _ _).trans due.asked).filterMap _

/-- The first request that is not taken up is due after as many messages as are queued: at most
those had entered before it that are handled or queued now.
-/
theorem exists_due {rest : List IngestRequest} {inbound : List BusMessage}
    (waiting
      : history.filterMap Entry.entered? = history.filterMap Entry.handled? ++ inbound)
    (pending
      : history.filterMap Entry.asked?
        = history.filterMap Entry.replied? ++ request :: rest)
    : ∃ earlier, Due request inbound.length history earlier := by
  obtain ⟨front, back, split, answered, following⟩ := List.filterMap_eq_append_iff.mp pending
  obtain ⟨between, entry, tail, rfl, silent, asks, -⟩ :=
    List.filterMap_eq_cons_iff.mp following
  obtain rfl : entry = .asked request := by
    cases entry <;> simp_all [Entry.asked?]
  have within : front ++ between ++ [.asked request] <+: history := by
    rw [split]
    simp
  refine ⟨front ++ between, within, ?_, ?_⟩
  · rw [List.filterMap_append, answered, List.filterMap_eq_nil_iff.mpr silent, List.append_nil]
  · have before := (List.prefix_append _ _).trans within
    have bound := (before.filterMap Entry.entered?).length_le
    rwa [waiting, List.length_append] at bound

-----------------------------------------------------------------------------------------
-- What the history tells of ingestion
-----------------------------------------------------------------------------------------

/-- A reply is to the request that is next, tells of what is done before it, and all that had
entered before the request is among that.
-/
structure Covers (start : Ingest) (history : List Entry) (request : IngestRequest)
    (reply : IngestReply)
    : Prop where
  earlier
    : ∃ earlier,
        earlier ++ [.asked request] <+: history
        ∧ (earlier.filterMap Entry.asked?).length
          = (history.filterMap Entry.replied?).length
        ∧ earlier.filterMap Entry.entered? <+: history.filterMap Entry.handled?
  reply : reply = ((start.performAll (history.filterMap Entry.task?)).2.reply request).1

/-- Every reply but that to a stop covers what came before its request. -/
def Prompt (start : Ingest) (history : List Entry) : Prop :=
  ∀ before request reply,
    before ++ [.replied request reply] <+: history
    → request ≠ .stop
    → Covers start before request reply

/-- A reply that is the last entry is all there is to look at, the others being earlier. -/
theorem Prompt.concat (prompt : Prompt start history) {entry : Entry}
    (covers
      : ∀ request reply,
          entry = .replied request reply
          → request ≠ .stop
          → Covers start history request reply)
    : Prompt start (history ++ [entry]) := by
  intro before request reply within answered
  rcases List.prefix_concat_iff.mp within with whole | sooner
  · obtain ⟨rfl, same⟩ := List.append_inj' whole rfl
    exact covers request reply (List.singleton_inj.mp same).symm answered
  · exact prompt before request reply sooner answered

theorem Prompt.concat_of_unreplied (prompt : Prompt start history) {entry : Entry}
    (comes : entry.replied? = none)
    : Prompt start (history ++ [entry]) :=
  prompt.concat fun _ _ same _ => by simp [same] at comes

/-- Messages leave the queue in the order in which they entered it, and all that ingestion has done
is what the history tells.
-/
structure Moves (start : Ingest) (history : List Entry) (loop : IngestLoop) : Prop where
  ingest : loop.actor.ingest = (start.performAll (history.filterMap Entry.task?)).2
  order : history.filterMap Entry.handled? <+: history.filterMap Entry.entered?
  waiting
    : loop.actor.running = true
      → history.filterMap Entry.entered?
        = history.filterMap Entry.handled? ++ loop.actor.inbound

/-- Requests are answered in the order in which they were made. The one that is taken up is due,
and every reply so far covers what came before its request.
-/
structure Serves (start : Ingest) (history : List Entry) (loop : IngestLoop) : Prop where
  pending
    : loop.actor.running = true
      → history.filterMap Entry.asked?
        = history.filterMap Entry.replied? ++ (loop.errand.map (·.request)).toList
          ++ loop.actor.requests
  due
    : ∀ request left,
        loop.errand = some ⟨request, left⟩
        → request ≠ .stop ∧ ∃ earlier, Due request left history earlier
  prompt : Prompt start history

/-- What is done besides moves no message. -/
theorem Moves.of_unmoved (moves : Moves start history loop) {entry : Entry}
    (unentered : entry.entered? = none) (unhandled : entry.handled? = none)
    (ingest
      : next.actor.ingest
        = (start.performAll ((history ++ [entry]).filterMap Entry.task?)).2)
    (queue
      : next.actor.running = true
        → loop.actor.running = true ∧ next.actor.inbound = loop.actor.inbound)
    : Moves start (history ++ [entry]) next := by
  have entered := List.filterMap_cons_none (l := []) unentered
  have handled := List.filterMap_cons_none (l := []) unhandled
  refine ⟨ingest, ?_, fun running => ?_⟩
  · simpa [entered, handled] using moves.order
  · obtain ⟨ran, same⟩ := queue running
    simpa [entered, handled, same] using moves.waiting ran

theorem Moves.step (moves : Moves start history loop) (stepped : Stepped loop entries next)
    : Moves start (history ++ entries) next := by
  have ingest := moves.ingest
  have waiting := moves.waiting
  cases stepped with
  | nothing => simpa using moves
  | emptied _ _ _ | taken _ _ _ _ => simpa using ⟨ingest, moves.order, waiting⟩
  | entered running =>
      constructor
      case ingest => simpa [List.filterMap_cons] using ingest
      case order => simpa [List.filterMap_cons] using moves.order.trans (List.prefix_append _ _)
      case waiting => simp [List.filterMap_cons, waiting running]
  | handled running queued _ =>
      constructor
      case ingest => simp [Ingest.performAll_concat, ← ingest, Ingest.perform]
      case order => simp [List.filterMap_cons, waiting running, queued]
      case waiting => simp [List.filterMap_cons, waiting running, queued]
  | asked _ =>
      refine moves.of_unmoved rfl rfl ?_ fun running => ⟨running, rfl⟩
      simpa [List.filterMap_cons] using ingest
  | @replied request _ _ =>
      refine moves.of_unmoved rfl rfl ?_ fun running => ⟨running, rfl⟩
      cases request <;>
        simp [List.filterMap_cons, Ingest.reply, Ingest.performAll_concat, ← ingest,
          Ingest.perform]
  | stopped _ _ =>
      refine moves.of_unmoved rfl rfl ?_ (by simp)
      simpa [List.filterMap_cons] using ingest
  | ticked _ _ =>
      refine moves.of_unmoved rfl rfl ?_ fun running => ⟨running, rfl⟩
      simp [Ingest.performAll_concat, ← ingest, Ingest.perform]

/-- When no more messages have to be handled for a request, all that had entered before it has
been: of two beginnings of what entered, the one that was handled is not the shorter one.
-/
theorem Due.covers (due : Due request 0 history earlier) (moves : Moves start history loop)
    : Covers start history request (loop.actor.ingest.reply request).1 where
  earlier :=
    ⟨earlier, due.asked, due.next,
      List.prefix_of_prefix_length_le due.prefix_entered moves.order due.entered⟩
  reply := by rw [moves.ingest]

/-- The request that is taken up stays due until it is answered. -/
theorem Serves.due_concat (serves : Serves start history loop) {entry : Entry}
    (unanswered : entry.replied? = none)
    : ∀ request left,
        loop.errand = some ⟨request, left⟩
        → request ≠ .stop ∧ ∃ earlier, Due request left (history ++ [entry]) earlier := by
  intro request left taken
  obtain ⟨answered, earlier, due⟩ := serves.due request left taken
  have none := List.filterMap_cons_none (l := []) unanswered
  exact ⟨answered, earlier, due.append none (Nat.le_add_left left _)⟩

/-- A message that is handled for the request that is taken up is one of those it waits for. -/
theorem Serves.handled (serves : Serves start history loop) {errand : Option IngestErrand}
    (counted
      : loop.errand = none ∧ errand = none
        ∨ ∃ request left,
            loop.errand = some ⟨request, left + 1⟩ ∧ errand = some ⟨request, left⟩)
    (instant : Int) (message : BusMessage) {actor : IngestActor}
    (running : actor.running = loop.actor.running)
    (requests : actor.requests = loop.actor.requests)
    : Serves start (history ++ [.handled instant message]) ⟨actor, errand⟩ := by
  obtain ⟨pending, due, prompt⟩ := serves
  constructor
  case pending =>
    rcases counted with ⟨before, after⟩ | ⟨request, left, before, after⟩ <;>
      simpa [List.filterMap_cons, running, requests, before, after] using pending
  case due =>
    intro request left taken
    rcases counted with ⟨-, after⟩ | ⟨_, _, before, after⟩
    · simp [after] at taken
    · obtain ⟨rfl, rfl⟩ := IngestErrand.mk.inj (Option.some.inj (after.symm.trans taken))
      obtain ⟨answered, earlier, due⟩ := due _ _ before
      exact ⟨answered, earlier, due.append rfl (by simp [Nat.add_comm])⟩
  case prompt => exact prompt.concat_of_unreplied rfl

theorem Serves.step (serves : Serves start history loop) (moves : Moves start history loop)
    (stepped : Stepped loop entries next)
    : Serves start (history ++ entries) next := by
  cases stepped with
  | nothing => simpa using serves
  | entered _ =>
      refine ⟨?_, serves.due_concat rfl, serves.prompt.concat_of_unreplied rfl⟩
      simpa [List.filterMap_cons] using serves.pending
  | asked running =>
      refine ⟨fun _ => ?_, serves.due_concat rfl, serves.prompt.concat_of_unreplied rfl⟩
      simp [List.filterMap_cons, serves.pending running]
  | handled _ _ counted => exact serves.handled counted _ _ rfl rfl
  | @emptied request left running taken empty =>
      obtain ⟨pending, due, prompt⟩ := serves
      rw [List.append_nil]
      refine ⟨by simpa [taken] using pending, fun request' left' same => ?_, prompt⟩
      obtain ⟨rfl, rfl⟩ := IngestErrand.mk.inj (Option.some.inj same)
      obtain ⟨answered, earlier, due⟩ := due _ _ taken
      -- The queue is empty, so all that entered has been handled.
      have all := due.prefix_entered.length_le
      rw [moves.waiting running, empty, List.append_nil] at all
      exact ⟨answered, earlier, due.asked, due.next, all⟩
  | @replied request running taken =>
      obtain ⟨pending, due, prompt⟩ := serves
      obtain ⟨-, earlier, due⟩ := due _ _ taken
      refine ⟨fun _ => ?_, by simp, prompt.concat fun request' reply same _ => ?_⟩
      · simp [List.filterMap_cons, pending running, taken]
      · obtain ⟨rfl, rfl⟩ := Entry.replied.inj same
        exact due.covers moves
  | stopped _ _ =>
      refine ⟨by simp, by simp, serves.prompt.concat fun request reply same answered => ?_⟩
      exact absurd (Entry.replied.inj same).1.symm answered
  | @taken request rest running idle asked answered =>
      obtain ⟨pending, due, prompt⟩ := serves
      rw [List.append_nil]
      have pending : history.filterMap Entry.asked?
          = history.filterMap Entry.replied? ++ request :: rest := by
        simpa [idle, asked] using pending running
      refine ⟨by simp [pending], fun request' left' same => ?_, prompt⟩
      obtain ⟨rfl, rfl⟩ := IngestErrand.mk.inj (Option.some.inj same)
      exact ⟨answered, exists_due (moves.waiting running) pending⟩
  | ticked _ idle =>
      obtain ⟨pending, due, prompt⟩ := serves
      refine ⟨?_, by simp, prompt.concat_of_unreplied rfl⟩
      simpa [List.filterMap_cons, idle] using pending

/-- The messages that were handled are the ones received, by induction on the history. -/
theorem received_performAll (history : List Entry) (start : Ingest)
    : (start.performAll (history.filterMap Entry.task?)).2.stats.received
      = start.stats.received + (history.filterMap Entry.handled?).length := by
  induction history generalizing start with
  | nil => rfl
  | cons entry rest ih =>
      cases entry with
      | entered _ | asked _ => exact ih start
      | handled instant message =>
          have received := start.received_handle instant message
          have later := ih (start.handle instant message).2
          simp only [List.filterMap_cons, Entry.task?, Entry.handled?, Ingest.performAll,
            Ingest.perform, List.length_cons]
          omega
      | ticked => exact ih start.prune.2
      | replied request reply =>
          cases request with
          | prune => exact ih start.prune.2
          | stats | stop => exact ih start

-----------------------------------------------------------------------------------------
-- Runs
-----------------------------------------------------------------------------------------

theorem performAll_serves (moves : Moves start history loop)
    (serves : Serves start history loop) (events : List Event)
    : Moves start (history ++ (loop.performAll events).1) (loop.performAll events).2
      ∧ Serves start (history ++ (loop.performAll events).1) (loop.performAll events).2 := by
  induction events generalizing history loop with
  | nil => simpa [performAll] using ⟨moves, serves⟩
  | cons event rest ih =>
      have stepped := stepped_perform event loop
      simpa [performAll] using ih (moves.step stepped) (serves.step moves stepped)

theorem moves_create (store : Store) (config : IngestConfig)
    : Moves (.create store config.staleAfter) [] (create store config) :=
  ⟨rfl, List.prefix_rfl, fun _ => rfl⟩

theorem serves_create (store : Store) (config : IngestConfig)
    : Serves (.create store config.staleAfter) [] (create store config) :=
  ⟨fun _ => rfl, by simp [create], fun _ _ _ within => by simp at within⟩

/-- However those who submit messages, those who make requests and ingestion at work take turns,
messages are handled in the order in which they entered the queue, each at most once. When the
reply to a request is given, all that had entered before that request was made has been handled:
counters that are given count it, and devices are removed only after it.
-/
theorem run_replies (store : Store) (config : IngestConfig) (events : List Event)
    : let start := Ingest.create store config.staleAfter
      let history := ((create store config).performAll events).1
      let last := ((create store config).performAll events).2
      history.filterMap Entry.handled? <+: history.filterMap Entry.entered?
      ∧ (last.actor.running = true
        → history.filterMap Entry.entered?
          = history.filterMap Entry.handled? ++ last.actor.inbound)
      ∧ last.actor.ingest = (start.performAll (history.filterMap Entry.task?)).2
      ∧ ∀ before request reply,
          before ++ [.replied request reply] <+: history
          → request ≠ .stop
          → let ingest := (start.performAll (before.filterMap Entry.task?)).2
            (∃ earlier,
              earlier ++ [.asked request] <+: before
              ∧ (earlier.filterMap Entry.asked?).length
                = (before.filterMap Entry.replied?).length
              ∧ earlier.filterMap Entry.entered? <+: before.filterMap Entry.handled?)
            ∧ ingest.stats.received = (before.filterMap Entry.handled?).length
            ∧ (request = .stats ∧ reply = .stats ingest.stats
              ∨ request = .prune ∧ reply = .pruned ingest.prune.1) := by
  intro start history last
  obtain ⟨moves, serves⟩ :=
    performAll_serves (moves_create store config) (serves_create store config) events
  refine ⟨moves.order, moves.waiting, moves.ingest, fun before request reply within answered => ?_⟩
  obtain ⟨earlier, told⟩ := serves.prompt before request reply within answered
  refine ⟨earlier, (received_performAll before start).trans (Nat.zero_add _), ?_⟩
  cases request with
  | stats => exact .inl ⟨rfl, told⟩
  | prune => exact .inr ⟨rfl, told⟩
  | stop => exact absurd rfl answered

/-- The counters are asked for after one message, taken up after two and given while a third one
waits: they count the first two.
-/
theorem run_replies_draining
    : let message (topic : String) : BusMessage := ⟨topic, .empty⟩
      let events : List Event :=
        [.submit (message "a"), .ask .stats, .submit (message "b"), .step 0 .requests,
          .submit (message "c"), .step 0 .timer, .step 0 .timer, .step 0 .timer]
      let history := ((create (.empty (.fixed 0) 0 0) .standard).performAll events).1
      let before : List Entry :=
        [.entered (message "a"), .asked .stats, .entered (message "b"), .entered (message "c"),
          .handled 0 (message "a"), .handled 0 (message "b")]
      let stats : IngestStats := { IngestStats.zero with received := 2, decodeErrors := 2 }
      before ++ [.replied .stats (.stats stats)] <+: history
      ∧ IngestRequest.stats ≠ .stop
      ∧ (∃ earlier,
        earlier ++ [.asked .stats] <+: before
        ∧ earlier.filterMap Entry.entered? <+: before.filterMap Entry.handled?)
      ∧ stats.received = (before.filterMap Entry.handled?).length := by
  intro message events history before stats
  have within : before ++ [.replied .stats (.stats stats)] <+: history := by decide +kernel
  have answered : IngestRequest.stats ≠ .stop := by decide
  -- The run must not be run again to find the statement about it.
  clear_value events before
  obtain ⟨-, -, -, replies⟩ := run_replies (.empty (.fixed 0) 0 0) .standard events
  obtain ⟨⟨earlier, asked, -, covered⟩, received, told⟩ :=
    replies before .stats (.stats stats) within answered
  refine ⟨within, answered, ⟨earlier, asked, covered⟩, ?_⟩
  rcases told with ⟨-, same⟩ | ⟨other, -⟩
  · rwa [IngestReply.stats.inj same]
  · exact absurd other (by decide)

end IngestLoop

end NetInventory
