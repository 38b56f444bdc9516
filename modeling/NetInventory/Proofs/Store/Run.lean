import NetInventory.Proofs.Inventory.Retouch
import NetInventory.Proofs.Store.Bring

/-! Runs of a store: calls of any kind in any order, each with its answer and the store it leaves.
Whatever a call does to the inventory is a sequence of three kinds of changes: a record comes in, a
device is taken out, or flows and traffic change in place. So what each change keeps is kept by
every run.
-/

namespace NetInventory.Store

-----------------------------------------------------------------------------------------
-- Calls and their answers
-----------------------------------------------------------------------------------------

/-- What callers ask of a store. An instant is when a tracker begins, counts or is trimmed; each
record of a warm-up has its own, and so has the device under each key when traffic is trimmed.
-/
inductive Call where
  | merge (instant : Int) (record : DeviceRecord)
  /-- A merge whose caller takes note of the stored record. -/
  | mergeNoting (instant : Int) (record : DeviceRecord)
  | warmUp (records : List (Int × DeviceRecord))
  | prune (conditions : List Condition)
  | replaceConnections (connections : List Connection)
  | addUsage (instant : Int) (ip : String) (amount : Amount)
  | trimUsage (instants : String → Int) (period : Int)

/-- What callers learn from a store. -/
inductive Answer where
  | merged (result : Except RecordError Outcome) (notes : List DeviceRecord)
  | warmed (count : Nat)
  | pruned (records : List DeviceRecord)
  | attached (count : Nat)
  | counted (found : Bool)
  | trimmed

def Call.records : Call → List DeviceRecord
  | .merge _ record | .mergeNoting _ record => [record]
  | .warmUp records => records.map (·.2)
  | _ => []

/-- Every record of the call that the store accepts is admitted. -/
def Call.Admits (admitted : DeviceRecord → Prop) (call : Call) : Prop :=
  ∀ raw ∈ call.records, ∀ record, accept raw = .ok record → admitted record

/-- The outcome of a merge that was not refused. -/
def Answer.outcome? : Answer → Option Outcome
  | .merged (.ok outcome) _ => some outcome
  | _ => none

def Answer.removed : Answer → List DeviceRecord
  | .pruned records => records
  | _ => []

def perform (store : Store) : Call → Answer × Store
  | .merge instant record =>
      let (result, store) := store.merge instant record
      (.merged result [], store)
  | .mergeNoting instant record =>
      let (result, store, notes) :=
        store.mergeWith (fun record notes => notes ++ [record]) true instant record []
      (.merged result notes, store)
  | .warmUp records =>
      let (count, store) := warmUpEach records store
      (.warmed count, store)
  | .prune conditions =>
      let (records, store) := prune conditions store
      (.pruned records, store)
  | .replaceConnections connections =>
      let (count, store) := replaceConnections connections store
      (.attached count, store)
  | .addUsage instant ip amount =>
      let (found, store) := addUsage instant ip amount store
      (.counted found, store)
  | .trimUsage instants period => (.trimmed, trimUsageEach instants period store)

theorem perform_merge (store : Store) (instant : Int) (record : DeviceRecord)
    : store.perform (.merge instant record)
      = (
        .merged (store.mergeWith (fun _ _ => ()) true instant record ()).1 [],
        (store.mergeWith (fun _ _ => ()) true instant record ()).2.1
      ) := by
  simp only [perform, merge]

theorem perform_mergeNoting (store : Store) (instant : Int) (record : DeviceRecord)
    : store.perform (.mergeNoting instant record)
      = (
        .merged
          (store.mergeWith (fun record notes => notes ++ [record]) true instant record []).1
          (store.mergeWith (fun record notes => notes ++ [record]) true instant record []).2.2,
        (store.mergeWith (fun record notes => notes ++ [record]) true instant record []).2.1
      ) := by
  simp only [perform]

theorem perform_warmUp (store : Store) (records : List (Int × DeviceRecord))
    : store.perform (.warmUp records)
      = (.warmed (store.warmUpEach records).1, (store.warmUpEach records).2) := by
  simp only [perform]

theorem warmUpEach_cons_snd (store : Store) (instant : Int) (record : DeviceRecord)
    (rest : List (Int × DeviceRecord))
    : (store.warmUpEach ((instant, record) :: rest)).2
      = ((store.mergeWith (fun _ _ => ()) false instant record ()).2.1.warmUpEach rest).2 := by
  simp only [warmUpEach]

-----------------------------------------------------------------------------------------
-- Changes of the inventory
-----------------------------------------------------------------------------------------

/-- How an inventory changes while admitted records come in, and the records that leave it. -/
inductive Changes (admitted : DeviceRecord → Prop)
    : Inventory → List DeviceRecord → Inventory → Prop
  | done {inventory} : Changes admitted inventory [] inventory
  | bring {inventory raw record now usage merged created next removed last}
    (accepted : accept raw = .ok record)
    (fit : admitted record)
    (brought : Brought inventory record now usage merged created next)
    (later : Changes admitted next removed last)
    : Changes admitted inventory removed last
  | take {inventory key stored next removed last}
    (taken : inventory.take key = some (stored, next))
    (later : Changes admitted next removed last)
    : Changes admitted inventory (stored.record :: removed) last
  | retouch {inventory next removed last}
    (same : inventory.SameAddresses next)
    (later : Changes admitted next removed last)
    : Changes admitted inventory removed last

/-- A property of inventories that every single change keeps. -/
structure Kept (admitted : DeviceRecord → Prop) (P : Inventory → Prop) : Prop where
  bring
    : ∀ {inventory raw record now usage merged created next},
        accept raw = .ok record
        → admitted record
        → Brought inventory record now usage merged created next
        → P inventory
        → P next
  take
    : ∀ {inventory key stored next},
        inventory.take key = some (stored, next) → P inventory → P next
  retouch : ∀ {inventory next}, inventory.SameAddresses next → P inventory → P next

theorem Changes.kept {admitted : DeviceRecord → Prop} {P : Inventory → Prop}
    {inventory last : Inventory} {removed : List DeviceRecord} (kept : Kept admitted P)
    (changes : Changes admitted inventory removed last) (start : P inventory)
    : P last := by
  induction changes with
  | done => exact start
  | bring accepted fit brought _ ih => exact ih (kept.bring accepted fit brought start)
  | take taken _ ih => exact ih (kept.take taken start)
  | retouch same _ ih => exact ih (kept.retouch same start)

variable {admitted : DeviceRecord → Prop}

/-- Taking devices out one after the other is a sequence of changes, by induction on the keys. -/
theorem changes_takeAll (inventory : Inventory) (keys : List String)
    : Changes admitted inventory (inventory.takeAll keys).1 (inventory.takeAll keys).2 := by
  induction keys generalizing inventory with
  | nil => exact .done
  | cons key rest ih =>
      cases taken : inventory.take key with
      | none =>
          simp only [Inventory.takeAll, taken]
          exact ih inventory
      | some out =>
          simp only [Inventory.takeAll, taken]
          exact .take taken (ih out.2)

/-- A merge changes the inventory at most by the accepted record. -/
theorem changes_mergeWith {σ : Type} (changed : DeviceRecord → σ → σ) (alerting : Bool)
    (instant : Int) {raw : DeviceRecord} (store : Store) (noted : σ) {last : Inventory}
    {removed : List DeviceRecord}
    (fit : ∀ record, accept raw = .ok record → admitted record)
    (later
      : Changes admitted (store.mergeWith changed alerting instant raw noted).2.1.inventory
          removed last)
    : Changes admitted store.inventory removed last := by
  cases accepted : accept raw with
  | error error => rwa [mergeWith_of_refused changed alerting instant store noted accepted] at later
  | ok record =>
      obtain ⟨merged, created, next, brought, result⟩ :=
        mergeWith_of_accepted changed alerting instant store noted accepted
      rw [result] at later
      exact .bring accepted (fit record accepted) brought later

/-- A warm-up changes the inventory by one record after the other, by induction on them. -/
theorem changes_warmUpEach {records : List (Int × DeviceRecord)} (store : Store)
    (fit : ∀ raw ∈ records.map (·.2), ∀ record, accept raw = .ok record → admitted record)
    : Changes admitted store.inventory [] (store.warmUpEach records).2.inventory := by
  induction records generalizing store with
  | nil => exact .done
  | cons first rest ih =>
      obtain ⟨instant, record⟩ := first
      obtain ⟨fitFirst, fitRest⟩ := List.forall_mem_cons.mp fit
      rw [warmUpEach_cons_snd]
      exact changes_mergeWith _ _ instant store () fitFirst (ih _ fitRest)

/-- Every call is a sequence of changes, and its answer names the records that left. -/
theorem changes_perform (store : Store) {call : Call} (admits : call.Admits admitted)
    : Changes admitted store.inventory (store.perform call).1.removed
        (store.perform call).2.inventory := by
  cases call with
  | merge instant record =>
      rw [perform_merge]
      dsimp only [Answer.removed]
      exact changes_mergeWith (fun _ _ => ()) true instant store ()
        (admits record List.mem_cons_self) .done
  | mergeNoting instant record =>
      rw [perform_mergeNoting]
      dsimp only [Answer.removed]
      exact changes_mergeWith (fun record notes => notes ++ [record]) true instant store []
        (admits record List.mem_cons_self) .done
  | warmUp records =>
      rw [perform_warmUp]
      exact changes_warmUpEach store admits
  | prune conditions => exact changes_takeAll store.inventory _
  | replaceConnections connections =>
      exact .retouch (Inventory.sameAddresses_replaceConnections _ connections) .done
  | addUsage instant ip amount =>
      exact .retouch (Inventory.sameAddresses_addUsage _ ip amount instant) .done
  | trimUsage instants period =>
      exact .retouch (Inventory.sameAddresses_trimUsage _ period instants) .done

-----------------------------------------------------------------------------------------
-- Runs
-----------------------------------------------------------------------------------------

/-- One call of a run with its answer and the store it leaves. -/
structure Step where
  call : Call
  answer : Answer
  after : Store

/-- The step that a call makes. -/
def step (store : Store) (call : Call) : Step where
  call := call
  answer := (store.perform call).1
  after := (store.perform call).2

/-- The steps that lead from one store to another. -/
inductive Run : Store → List Step → Store → Prop
  | done {store} : Run store [] store
  | step {store call rest last} (later : Run (store.step call).after rest last)
    : Run store (store.step call :: rest) last

/-- A run splits where its steps do, by induction on the first part. -/
theorem Run.split {store last : Store} {before after : List Step}
    (run : Run store (before ++ after) last)
    : ∃ middle, Run store before middle ∧ Run middle after last := by
  induction before generalizing store with
  | nil => exact ⟨store, .done, run⟩
  | cons step rest ih =>
      cases run with
      | step later =>
          obtain ⟨middle, first, second⟩ := ih later
          exact ⟨middle, .step first, second⟩

/-- A property that every change keeps is kept by every run, by induction on its steps. -/
theorem Run.kept {P : Inventory → Prop} {store last : Store} {steps : List Step}
    (run : Run store steps last) (kept : Kept admitted P)
    (admits : ∀ step ∈ steps, step.call.Admits admitted) (start : P store.inventory)
    : P last.inventory := by
  induction run with
  | done => exact start
  | @step store call rest last _ ih =>
      have first := changes_perform store (admits (store.step call) List.mem_cons_self)
      exact ih (fun step member => admits step (List.mem_cons_of_mem _ member))
        (first.kept kept start)

end NetInventory.Store
