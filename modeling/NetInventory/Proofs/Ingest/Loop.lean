import NetInventory.Proofs.Ingest.Dismissal
import NetInventory.Proofs.Ingest.Run

/-! Ingestion at work, one message at a time. While it handles what is queued for a request, others
go on submitting messages and making requests; between requests it may turn to whatever there is.
Runs in which requests go first and are answered at one stroke are runs of this kind.
-/

namespace NetInventory

/-- What ingestion turns to when it has nothing under way, in whatever order it looks. -/
inductive IngestBranch where
  | requests
  | messages
  | timer

/-- A request that is taken up, to be answered after some more messages. -/
structure IngestErrand where
  request : IngestRequest
  left : Nat

/-- Running ingestion with the request that it has taken up. -/
structure IngestLoop where
  actor : IngestActor
  errand : Option IngestErrand

/-- The answer to a request for which all is handled that has to be, and ingestion after it. -/
def Ingest.reply (request : IngestRequest) (ingest : Ingest) : IngestReply × Ingest :=
  match request with
  | .stats => (.stats ingest.stats, ingest)
  | .prune => (.pruned ingest.prune.1, ingest.prune.2)
  | .stop => (.stopped, ingest)

namespace IngestLoop

/-- What happens to ingestion at work. A message that is submitted enters the queue if there is
room, and waits outside otherwise.
-/
inductive Event where
  | submit (message : BusMessage)
  | ask (request : IngestRequest)
  /-- Ingestion goes on with what is under way, or else turns to a branch. -/
  | step (instant : Int) (branch : IngestBranch)

/-- An entry in the history of ingestion. -/
inductive Entry where
  /-- A message has entered the queue. -/
  | entered (message : BusMessage)
  /-- A request has been queued. -/
  | asked (request : IngestRequest)
  | handled (instant : Int) (message : BusMessage)
  | replied (request : IngestRequest) (reply : IngestReply)
  | ticked
deriving DecidableEq

namespace Entry

@[simp]
def entered? : Entry → Option BusMessage
  | entered message => some message
  | _ => none

@[simp]
def asked? : Entry → Option IngestRequest
  | asked request => some request
  | _ => none

@[simp]
def handled? : Entry → Option BusMessage
  | handled _ message => some message
  | _ => none

@[simp]
def replied? : Entry → Option IngestRequest
  | replied request _ => some request
  | _ => none

/-- What ingestion had to do for an entry. -/
@[simp]
def task? : Entry → Option IngestTask
  | handled instant message => some (.handle instant message)
  | replied .prune _ | ticked => some .prune
  | _ => none

end Entry

/-- Ingestion that begins to run. -/
def create (store : Store) (config : IngestConfig) : IngestLoop :=
  ⟨.create store config, none⟩

/-- Handles a message that has left the queue. -/
def handle (instant : Int) (message : BusMessage) (rest : List BusMessage)
    (errand : Option IngestErrand) (actor : IngestActor)
    : List Entry × IngestLoop :=
  let ingest := (actor.ingest.handle instant message).2
  ([.handled instant message], ⟨{ actor with ingest, inbound := rest }, errand⟩)

/-- Does one thing: handles a message for the request that is taken up, or answers it, or else
turns to a branch. A request that is taken up waits for as many messages as are queued then; a stop
waits for none.
-/
def step (instant : Int) (branch : IngestBranch) (loop : IngestLoop) : List Entry × IngestLoop :=
  let actor := loop.actor
  if !actor.running then
    ([], loop)
  else
    match loop.errand with
    | some ⟨request, left + 1⟩ =>
        match actor.inbound with
        | [] => ([], { loop with errand := some ⟨request, 0⟩ })
        | message :: rest => handle instant message rest (some ⟨request, left⟩) actor
    | some ⟨request, 0⟩ =>
        let (reply, ingest) := actor.ingest.reply request
        ([.replied request reply], ⟨{ actor with ingest }, none⟩)
    | none =>
        match branch with
        | .requests =>
            match actor.requests with
            | [] => ([], loop)
            | .stop :: _ =>
                ([.replied .stop .stopped], ⟨(actor.answer instant .stop).2.2, none⟩)
            | request :: rest =>
                ([],
                  ⟨{ actor with requests := rest }, some ⟨request, actor.inbound.length⟩⟩)
        | .messages =>
            match actor.inbound with
            | [] => ([], loop)
            | message :: rest => handle instant message rest none actor
        | .timer => ([.ticked], ⟨actor.tick, none⟩)

/-- What an event adds to the history, and ingestion after it. -/
def perform (event : Event) (loop : IngestLoop) : List Entry × IngestLoop :=
  match event with
  | .submit message =>
      if loop.actor.isFull then ([], loop)
      else
        match loop.actor.submit message with
        | .ok actor => ([.entered message], { loop with actor })
        | .error _ => ([], loop)
  | .ask request =>
      match loop.actor.ask request with
      | .ok actor => ([.asked request], { loop with actor })
      | .error _ => ([], loop)
  | .step instant branch => loop.step instant branch

/-- The history of a run, and ingestion after it. -/
def performAll : List Event → IngestLoop → List Entry × IngestLoop
  | [], loop => ([], loop)
  | event :: rest, loop =>
      let (entries, next) := loop.perform event
      let (later, last) := next.performAll rest
      (entries ++ later, last)

variable {loop next : IngestLoop} {instant : Int} {branch : IngestBranch} {entries : List Entry}

/-- What one event can do. -/
inductive Stepped (loop : IngestLoop) : List Entry → IngestLoop → Prop
  | nothing : Stepped loop [] loop
  | entered {message}
    (running : loop.actor.running = true)
    : Stepped loop [.entered message]
        { loop with
          actor := { loop.actor with inbound := loop.actor.inbound ++ [message] } }
  | asked {request}
    (running : loop.actor.running = true)
    : Stepped loop [.asked request]
        { loop with
          actor := { loop.actor with requests := loop.actor.requests ++ [request] } }
  | handled {instant message rest errand}
    (running : loop.actor.running = true)
    (queued : loop.actor.inbound = message :: rest)
    (counted
      : loop.errand = none ∧ errand = none
        ∨ ∃ request left,
            loop.errand = some ⟨request, left + 1⟩ ∧ errand = some ⟨request, left⟩)
    : Stepped loop [.handled instant message]
        ⟨
          { loop.actor with
            ingest := (loop.actor.ingest.handle instant message).2, inbound := rest },
          errand
        ⟩
  | emptied {request left}
    (running : loop.actor.running = true)
    (taken : loop.errand = some ⟨request, left⟩)
    (empty : loop.actor.inbound = [])
    : Stepped loop [] { loop with errand := some ⟨request, 0⟩ }
  | replied {request}
    (running : loop.actor.running = true)
    (taken : loop.errand = some ⟨request, 0⟩)
    : Stepped loop [.replied request (loop.actor.ingest.reply request).1]
        ⟨{ loop.actor with ingest := (loop.actor.ingest.reply request).2 }, none⟩
  | stopped {rest}
    (idle : loop.errand = none)
    (asked : loop.actor.requests = .stop :: rest)
    : Stepped loop [.replied .stop .stopped]
        ⟨{ loop.actor with running := false, inbound := [], requests := [] }, none⟩
  | taken {request rest}
    (running : loop.actor.running = true)
    (idle : loop.errand = none)
    (asked : loop.actor.requests = request :: rest)
    (answered : request ≠ .stop)
    : Stepped loop []
        ⟨
          { loop.actor with requests := rest },
          some ⟨request, loop.actor.inbound.length⟩
        ⟩
  | ticked
    (running : loop.actor.running = true)
    (idle : loop.errand = none)
    : Stepped loop [.ticked]
        ⟨{ loop.actor with ingest := loop.actor.ingest.prune.2 }, none⟩

/-- A step of ingestion is one of these, by cases on what is under way, then on the branch. -/
theorem stepped_step (instant : Int) (branch : IngestBranch) (loop : IngestLoop)
    : Stepped loop (loop.step instant branch).1 (loop.step instant branch).2 := by
  simp only [step, handle]
  split
  next => exact .nothing
  next runs =>
    have running : loop.actor.running = true := by simpa using runs
    split
    next request left taken =>
      split
      next empty => exact .emptied running taken empty
      next message rest queued => exact .handled running queued (.inr ⟨_, _, taken, rfl⟩)
    next request taken => exact .replied running taken
    next idle =>
      split
      next =>
        split
        next => exact .nothing
        next asked => exact .stopped idle asked
        next request rest answered asked => exact .taken running idle asked answered
      next =>
        split
        next => exact .nothing
        next message rest queued => exact .handled running queued (.inl ⟨idle, rfl⟩)
      next => simpa [IngestActor.tick, running] using Stepped.ticked running idle

theorem stepped_perform (event : Event) (loop : IngestLoop)
    : Stepped loop (loop.perform event).1 (loop.perform event).2 := by
  cases event with
  | submit message =>
      by_cases full : loop.actor.isFull = true
      · simpa only [perform, if_pos full] using .nothing
      · by_cases running : loop.actor.running = true
        · simpa only [perform, IngestActor.submit, if_neg full, if_pos running]
            using .entered running
        · simpa only [perform, IngestActor.submit, if_neg full, if_neg running] using .nothing
  | ask request =>
      by_cases running : loop.actor.running = true
      · simpa only [perform, IngestActor.ask, if_pos running] using .asked running
      · simpa only [perform, IngestActor.ask, if_neg running] using .nothing
  | step instant branch => exact stepped_step instant branch loop

-----------------------------------------------------------------------------------------
-- Requests that are answered at one stroke
-----------------------------------------------------------------------------------------

/-- What the history tells of a turn in the end. -/
def entryOf (instant : Int) : IngestActor.Deed → Entry
  | .answered request reply => .replied request reply
  | .handled message => .handled instant message

theorem performAll_append (events later : List Event) (loop : IngestLoop)
    : loop.performAll (events ++ later)
      = (
        (loop.performAll events).1 ++ ((loop.performAll events).2.performAll later).1,
        ((loop.performAll events).2.performAll later).2
      ) := by
  induction events generalizing loop with
  | nil => simp [performAll]
  | cons event rest ih => simp [performAll, ih]

variable {actor last : IngestActor}

/-- Undisturbed, ingestion handles for a request all that was queued, by induction on the queue. -/
theorem exists_performAll_drain (running : actor.running = true) (instant : Int)
    (request : IngestRequest)
    : ∃ events entries,
        performAll events ⟨actor, some ⟨request, actor.inbound.length⟩⟩
        = (entries, ⟨(actor.drain instant).2, some ⟨request, 0⟩⟩) := by
  obtain ⟨ingest, capacity, _, inbound, requests⟩ := actor
  obtain rfl : _ = true := running
  induction inbound generalizing ingest with
  | nil => exact ⟨[], [], rfl⟩
  | cons message rest ih =>
      obtain ⟨events, entries, drained⟩ := ih (ingest.handle instant message).2
      refine ⟨.step instant .messages :: events, .handled instant message :: entries, ?_⟩
      simp only [IngestActor.drain, Ingest.handleAll] at drained ⊢
      simp [performAll, perform, step, handle, drained]

/-- A request that is not a stop is answered after what is queued. -/
theorem exists_performAll_answer (running : actor.running = true) {request : IngestRequest}
    {rest : List IngestRequest} (asked : actor.requests = request :: rest)
    (answered : request ≠ .stop) (instant : Int)
    : ∃ events entries,
        let (_, reply, last) := { actor with requests := rest }.answer instant request
        performAll events ⟨actor, none⟩
          = (entries ++ [.replied request reply], ⟨last, none⟩) := by
  have relieved : { actor with requests := rest }.running = true := running
  obtain ⟨events, entries, drained⟩ := exists_performAll_drain relieved instant request
  have taken : IngestLoop.step instant .requests ⟨actor, none⟩
      = ([], ⟨{ actor with requests := rest }, some ⟨request, actor.inbound.length⟩⟩) := by
    cases request with
    | stop => exact absurd rfl answered
    | stats | prune => simp [step, running, asked]
  refine ⟨.step instant .requests :: events ++ [.step instant .requests], entries, ?_⟩
  simp only [performAll_append, performAll, perform, taken, drained]
  cases request with
  | stop => exact absurd rfl answered
  | stats | prune => simp [step, IngestActor.answer, IngestActor.drain, running, Ingest.reply]

/-- A turn is a run in which nothing comes in. -/
theorem exists_performAll_turn {deed : IngestActor.Deed} {effects : List Effect}
    (turned : actor.turn instant = some (deed, effects, last))
    : ∃ events entries,
        performAll events ⟨actor, none⟩ = (entries ++ [entryOf instant deed], ⟨last, none⟩) := by
  unfold IngestActor.turn at turned
  split at turned
  next => simp at turned
  next runs =>
    have running : actor.running = true := by simpa using runs
    split at turned
    next request rest asked =>
      obtain ⟨rfl, -, rfl⟩ : _ ∧ _ ∧ _ := by simpa using turned
      by_cases stop : request = .stop
      · refine ⟨[.step instant .requests], [], ?_⟩
        simp [stop, performAll, perform, step, running, asked, entryOf, IngestActor.answer]
      · exact exists_performAll_answer running asked stop instant
    next message rest _ queued =>
      obtain ⟨rfl, -, rfl⟩ : _ ∧ _ ∧ _ := by simpa using turned
      refine ⟨[.step instant .messages], [], ?_⟩
      simp [performAll, perform, step, handle, running, queued, entryOf]
    next => simp at turned

theorem exists_performAll_perform (event : IngestEvent) (actor : IngestActor)
    : ∃ events, (performAll events ⟨actor, none⟩).2 = ⟨(actor.perform event).2, none⟩ := by
  cases event with
  | submit message =>
      refine ⟨[.submit message], ?_⟩
      simp only [performAll, perform, IngestActor.perform]
      split
      next => rfl
      next => cases actor.submit message <;> rfl
  | ask request =>
      refine ⟨[.ask request], ?_⟩
      simp only [performAll, perform, IngestActor.perform]
      cases actor.ask request <;> rfl
  | turn instant =>
      simp only [IngestActor.perform]
      split
      next deed effects last turned =>
        obtain ⟨events, entries, same⟩ := exists_performAll_turn turned
        exact ⟨events, congrArg (·.2) same⟩
      next => exact ⟨[], rfl⟩
  | tick =>
      refine ⟨[.step 0 .timer], ?_⟩
      cases running : actor.running <;>
        simp [performAll, perform, step, IngestActor.perform, IngestActor.tick, running]

/-- Runs in which each turn is done at one stroke are runs of ingestion at work, by induction on
their events.
-/
theorem exists_performAll (coarse : List IngestEvent) (actor : IngestActor)
    : ∃ events, (performAll events ⟨actor, none⟩).2 = ⟨(actor.performAll coarse).2, none⟩ := by
  induction coarse generalizing actor with
  | nil => exact ⟨[], rfl⟩
  | cons event rest ih =>
      obtain ⟨head, reached⟩ := exists_performAll_perform event actor
      obtain ⟨tail, ended⟩ := ih (actor.perform event).2
      refine ⟨head ++ tail, ?_⟩
      rw [performAll_append, reached]
      exact ended

end IngestLoop

end NetInventory
