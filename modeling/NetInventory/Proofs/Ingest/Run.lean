import NetInventory.Ingest.Actor
import NetInventory.Proofs.Ingest.Handling

/-! Runs of ingestion: messages and requests that come in, turns that deal with them, and the prune
timer, in any order. All that a run does to the store and to the counters is to handle messages
that were submitted and to prune, so what these two keep is kept by every run.
-/

namespace NetInventory

/-- What happens to running ingestion. An instant is when trackers begin and count. -/
inductive IngestEvent where
  | submit (message : BusMessage)
  | ask (request : IngestRequest)
  /-- Ingestion does one thing, if there is something to do. -/
  | turn (instant : Int)
  /-- The prune timer goes off. -/
  | tick

def IngestEvent.message? : IngestEvent → Option BusMessage
  | submit message => some message
  | _ => none

/-- A property of what others have learned so far and of ingestion that handling an admitted
message keeps, and pruning too.
-/
structure Ingest.Kept (admitted : BusMessage → Prop) (P : List Effect → Ingest → Prop) : Prop where
  handled
    : ∀ {instant message ingest effects more next},
        admitted message
        → Handled instant message ingest more next
        → P effects ingest
        → P (effects ++ more) next
  pruned : ∀ {ingest effects}, P effects ingest → P effects ingest.prune.2

namespace IngestActor

/-- What an event lets others know, and ingestion after it. A message waits outside while the queue
is full; messages and requests are turned down once ingestion has stopped.
-/
def perform (event : IngestEvent) (actor : IngestActor) : List Effect × IngestActor :=
  match event with
  | .submit message =>
      if actor.isFull then ([], actor)
      else
        match actor.submit message with
        | .ok next => ([], next)
        | .error _ => ([], actor)
  | .ask request =>
      match actor.ask request with
      | .ok next => ([], next)
      | .error _ => ([], actor)
  | .turn instant =>
      match actor.turn instant with
      | some (_, effects, next) => (effects, next)
      | none => ([], actor)
  | .tick => ([], actor.tick)

/-- What events let others know in all, and ingestion after them. -/
def performAll : List IngestEvent → IngestActor → List Effect × IngestActor
  | [], actor => ([], actor)
  | event :: rest, actor =>
      let (effects, next) := actor.perform event
      let (later, last) := next.performAll rest
      (effects ++ later, last)

variable {admitted : BusMessage → Prop} {P : List Effect → Ingest → Prop}

-----------------------------------------------------------------------------------------
-- One event
-----------------------------------------------------------------------------------------

/-- Handling admitted messages one after the other keeps what one of them keeps, by induction on
the messages.
-/
theorem kept_handleAll (kept : Ingest.Kept admitted P) (instant : Int)
    {messages : List BusMessage} (fit : ∀ message ∈ messages, admitted message)
    {ingest : Ingest} {effects : List Effect} (start : P effects ingest)
    : P (effects ++ (ingest.handleAll instant messages).1)
        (ingest.handleAll instant messages).2 := by
  induction messages generalizing ingest effects with
  | nil => simpa [Ingest.handleAll] using start
  | cons message rest ih =>
      have first :=
        kept.handled (fit message List.mem_cons_self)
          (Ingest.handled_handle instant message ingest) start
      have later := ih (fun other member => fit other (List.mem_cons_of_mem _ member)) first
      simpa [Ingest.handleAll] using later

/-- The property together with the queue: only admitted messages wait in it. -/
def Holds (admitted : BusMessage → Prop) (P : List Effect → Ingest → Prop)
    (effects : List Effect) (actor : IngestActor) : Prop :=
  P effects actor.ingest ∧ ∀ message ∈ actor.inbound, admitted message

variable {actor : IngestActor} {effects : List Effect}

theorem holds_answer (kept : Ingest.Kept admitted P) (instant : Int) (request : IngestRequest)
    (holds : Holds admitted P effects actor)
    : Holds admitted P (effects ++ (actor.answer instant request).1)
        (actor.answer instant request).2.2 := by
  obtain ⟨start, fit⟩ := holds
  have drained := kept_handleAll kept instant fit start
  -- Every answer but that to a stop handles first what is queued.
  cases request with
  | stats => exact ⟨drained, by simp [answer, drain]⟩
  | prune => exact ⟨kept.pruned drained, by simp [answer, drain]⟩
  | stop => exact ⟨by simpa [answer] using start, by simp [answer]⟩

theorem holds_turn (kept : Ingest.Kept admitted P) (instant : Int) {deed : Deed}
    {more : List Effect} {next : IngestActor}
    (turned : actor.turn instant = some (deed, more, next))
    (holds : Holds admitted P effects actor)
    : Holds admitted P (effects ++ more) next := by
  unfold turn at turned
  split at turned
  next => simp at turned
  next =>
    split at turned
    next request rest _ =>
      obtain ⟨-, rfl, rfl⟩ : _ ∧ _ ∧ _ := by simpa using turned
      exact holds_answer kept instant request holds
    next message rest _ queued =>
      obtain ⟨-, rfl, rfl⟩ : _ ∧ _ ∧ _ := by simpa using turned
      obtain ⟨start, fit⟩ := holds
      rw [queued] at fit
      exact ⟨
        kept.handled (fit message List.mem_cons_self)
          (Ingest.handled_handle instant message actor.ingest) start,
        fun other member => fit other (List.mem_cons_of_mem _ member)
      ⟩
    next => simp at turned

theorem holds_perform (kept : Ingest.Kept admitted P) {event : IngestEvent}
    (fit : ∀ message, event.message? = some message → admitted message)
    (holds : Holds admitted P effects actor)
    : Holds admitted P (effects ++ (actor.perform event).1) (actor.perform event).2 := by
  obtain ⟨start, waiting⟩ := holds
  cases event with
  | submit message =>
      simp only [perform, submit]
      cases full : actor.isFull with
      | true => simpa using ⟨start, waiting⟩
      | false =>
          cases running : actor.running with
          | true =>
              refine ⟨by simpa using start, fun other member => ?_⟩
              rcases List.mem_append.mp member with queued | new
              · exact waiting other queued
              · obtain rfl := List.mem_singleton.mp new
                exact fit other rfl
          | false => simpa using ⟨start, waiting⟩
  | ask request =>
      simp only [perform, ask]
      cases running : actor.running with
      | true => exact ⟨by simpa using start, waiting⟩
      | false => simpa using ⟨start, waiting⟩
  | turn instant =>
      simp only [perform]
      split
      next deed more next turned => exact holds_turn kept instant turned ⟨start, waiting⟩
      next => simpa using ⟨start, waiting⟩
  | tick =>
      simp only [perform, tick]
      cases running : actor.running with
      | true => exact ⟨by simpa using kept.pruned start, waiting⟩
      | false => simpa using ⟨start, waiting⟩

-----------------------------------------------------------------------------------------
-- Runs
-----------------------------------------------------------------------------------------

/-- A property that handling and pruning keep is kept by every run, by induction on its events. -/
theorem holds_performAll (kept : Ingest.Kept admitted P) {events : List IngestEvent}
    (fit : ∀ message, .submit message ∈ events → admitted message)
    (holds : Holds admitted P effects actor)
    : Holds admitted P (effects ++ (actor.performAll events).1) (actor.performAll events).2 := by
  induction events generalizing actor effects with
  | nil => simpa [performAll] using holds
  | cons event rest ih =>
      have arrives (message : BusMessage) (comes : event.message? = some message)
          : admitted message := by
        cases event <;> simp only [IngestEvent.message?, reduceCtorEq, Option.some.injEq] at comes
        subst comes
        exact fit _ List.mem_cons_self
      have first := holds_perform kept arrives holds
      have later := ih (fun message member => fit message (List.mem_cons_of_mem _ member)) first
      simpa [performAll] using later

/-- What holds of ingestion that begins holds after every run. -/
theorem run_kept (kept : Ingest.Kept admitted P) (store : Store) (config : IngestConfig)
    (events : List IngestEvent) (start : P [] (.create store config.staleAfter))
    (fit : ∀ message, .submit message ∈ events → admitted message)
    : P ((create store config).performAll events).1
        ((create store config).performAll events).2.ingest := by
  have begun : Holds admitted P [] (create store config) := ⟨start, by simp [create]⟩
  simpa using (holds_performAll kept fit begun).1

end IngestActor

end NetInventory
