import NetInventory.Proofs.Ingest.Handling
import NetInventory.Proofs.Inventory.Traffic

/-! Messages that ingestion dismisses, since they cannot be read or the store refuses what they
hold, might as well never have come. What is done next depends on what was taken in so far, and
dismissing a message leaves that as it was and lets nobody know of anything. So a run without its
dismissed messages leads to the same store and lets others know the same.
-/

namespace NetInventory

/-- What ingestion has to do: to handle a message at an instant, or to remove stale devices. -/
inductive IngestTask where
  | handle (instant : Int) (message : BusMessage)
  | prune

/-- The messages that could not be read and those that the store refused. -/
def IngestStats.dismissed (stats : IngestStats) : Nat :=
  stats.decodeErrors + stats.rejected

theorem Store.addUsage_of_missed {store : Store} {instant : Int} {ip : String} {amount : Amount}
    (missed : (store.addUsage instant ip amount).1 = false)
    : (store.addUsage instant ip amount).2 = store := by
  cases owner : store.inventory.owner? ip with
  | none => simp [Store.addUsage, Inventory.addUsage_of_unowned owner]
  | some owned =>
      have found := (Inventory.get?_addUsage owner amount instant ip).1
      exact absurd (missed.symm.trans found) (by simp)

namespace Ingest

/-- What a task lets others know, and ingestion after it. -/
def perform (task : IngestTask) (ingest : Ingest) : List Effect × Ingest :=
  match task with
  | .handle instant message => ingest.handle instant message
  | .prune => ([], ingest.prune.2)

/-- What tasks let others know in all, and ingestion after them. -/
def performAll : List IngestTask → Ingest → List Effect × Ingest
  | [], ingest => ([], ingest)
  | task :: rest, ingest =>
      let (effects, next) := ingest.perform task
      let (later, last) := next.performAll rest
      (effects ++ later, last)

/-- Whether a task is counted as a dismissed message. -/
def dismisses (task : IngestTask) (ingest : Ingest) : Bool :=
  (ingest.perform task).2.stats.dismissed ≠ ingest.stats.dismissed

/-- The tasks of a run without the messages that are dismissed in it. -/
def heeded : List IngestTask → Ingest → List IngestTask
  | [], _ => []
  | task :: rest, ingest =>
      let later := (ingest.perform task).2.heeded rest
      if ingest.dismisses task then later else task :: later

/-- What was taken in: ingestion without what it has counted of receipts and dismissals. -/
def intake (ingest : Ingest) : Ingest :=
  { ingest with stats := { ingest.stats with received := 0, decodeErrors := 0, rejected := 0 } }

variable {ingest other : Ingest} {task : IngestTask}

-----------------------------------------------------------------------------------------
-- One task
-----------------------------------------------------------------------------------------

/-- What a task does depends on what was taken in before, and so does what it dismisses. The cases
are those of what the message holds and of what the store makes of it.
-/
theorem perform_intake (task : IngestTask) (ingest : Ingest)
    : (ingest.intake.perform task).1 = (ingest.perform task).1
      ∧ (ingest.intake.perform task).2.intake = (ingest.perform task).2.intake
      ∧ (ingest.perform task).2.stats.dismissed
        = ingest.stats.dismissed + (ingest.intake.perform task).2.stats.dismissed := by
  simp only [IngestStats.dismissed]
  cases task with
  | prune => simp [perform, prune, intake, count]
  | handle instant message =>
      simp only [perform, handle]
      cases Inbound.ofMessage message with
      | error _ => simp [intake, count]; omega
      | ok inbound =>
          cases inbound with
          | connections flows => simp [apply, intake, count]
          | usage report =>
              cases found : (ingest.store.addUsage instant report.ip report.amount).1 with
              | true => simp [apply, intake, count, found]
              | false => simp [apply, intake, count, found]; omega
          | sighting record =>
              simp only [apply, merge, intake, count]
              cases (ingest.store.merge instant record).1 with
              | error _ => simp; omega
              | ok outcome => cases due : outcome.alert <;> simp [due]

theorem perform_congr (same : other.intake = ingest.intake) (task : IngestTask)
    : (other.perform task).1 = (ingest.perform task).1
      ∧ (other.perform task).2.intake = (ingest.perform task).2.intake
      ∧ other.dismisses task = ingest.dismisses task := by
  obtain ⟨effects, next, dismissed⟩ := perform_intake task ingest
  obtain ⟨otherEffects, otherNext, otherDismissed⟩ := perform_intake task other
  rw [same] at otherEffects otherNext otherDismissed
  refine ⟨otherEffects.symm.trans effects, otherNext.symm.trans next, ?_⟩
  exact decide_eq_decide.mpr (by omega)

/-- A dismissed message is neither taken in nor made known: it fails before the store changes and
before the clock is read.
-/
theorem perform_of_dismisses (dismissed : ingest.dismisses task = true)
    : (ingest.perform task).1 = [] ∧ (ingest.perform task).2.intake = ingest.intake := by
  replace dismissed := of_decide_eq_true dismissed
  cases task with
  | prune => exact absurd rfl dismissed
  | handle instant message =>
      have way := handled_handle instant message ingest
      simp only [perform] at dismissed ⊢
      generalize ingest.handle instant message = result at way dismissed ⊢
      obtain ⟨effects, next⟩ := result
      cases way with
      | unread _ | refused _ _ => exact ⟨rfl, rfl⟩
      | merged _ _ _ | connected _ | counted _ _ => exact absurd rfl dismissed
      | uncounted _ missed =>
          rw [Store.addUsage_of_missed missed]
          exact ⟨rfl, rfl⟩

/-- The clock is read for a message if it is merged, and for no other. -/
theorem clock_handle (instant : Int) (message : BusMessage) (ingest : Ingest)
    : let next := (ingest.handle instant message).2
      next.store.clock
        = if next.stats.merged = ingest.stats.merged then ingest.store.clock
          else ingest.store.clock.read.2 := by
  have way := handled_handle instant message ingest
  generalize ingest.handle instant message = result at way ⊢
  obtain ⟨effects, next⟩ := result
  cases way with
  | merged _ _ _ => exact (if_neg (Nat.succ_ne_self _)).symm
  | unread _ | refused _ _ | connected _ | counted _ _ | uncounted _ _ => exact (if_pos rfl).symm

-----------------------------------------------------------------------------------------
-- Runs
-----------------------------------------------------------------------------------------

/-- A run without its dismissed messages follows the run, from wherever the same was taken in, and
dismisses none. The induction is on the tasks; a dismissed one leaves the other run where it is.
-/
theorem performAll_heeded_of_intake (tasks : List IngestTask) {ingest other : Ingest}
    (same : other.intake = ingest.intake)
    : (other.performAll (ingest.heeded tasks)).1 = (ingest.performAll tasks).1
      ∧ (other.performAll (ingest.heeded tasks)).2.intake = (ingest.performAll tasks).2.intake
      ∧ (other.performAll (ingest.heeded tasks)).2.stats.dismissed = other.stats.dismissed := by
  induction tasks generalizing ingest other with
  | nil => exact ⟨rfl, same, rfl⟩
  | cons task rest ih =>
      cases dismissed : ingest.dismisses task with
      | true =>
          obtain ⟨silent, unchanged⟩ := perform_of_dismisses dismissed
          simpa [heeded, dismissed, performAll, silent] using ih (same.trans unchanged.symm)
      | false =>
          obtain ⟨effects, next, heeds⟩ := perform_congr same task
          have undismissed := of_decide_eq_false (heeds.trans dismissed)
          obtain ⟨later, last, none⟩ := ih next
          simp only [heeded, dismissed, performAll]
          exact ⟨congrArg₂ _ effects later, last, none.trans (of_not_not undismissed)⟩

/-- Dismissed messages leave no trace. Whatever comes in, a run without the messages that could not
be read or were refused lets others know the same, ends with the same store, clock included, and has
counted the same of all else; none of its messages is dismissed. The clock is read only for messages
that are merged.
-/
theorem performAll_heeded (ingest : Ingest) (tasks : List IngestTask) (instant : Int)
    (message : BusMessage)
    : let (effects, last) := ingest.performAll tasks
      let (heededEffects, heededLast) := ingest.performAll (ingest.heeded tasks)
      let next := (last.handle instant message).2
      heededEffects = effects
      ∧ heededLast.store = last.store
      ∧ heededLast.stats.merged = last.stats.merged
      ∧ heededLast.stats.alerts = last.stats.alerts
      ∧ heededLast.stats.pruned = last.stats.pruned
      ∧ heededLast.stats.trafficUpdates = last.stats.trafficUpdates
      ∧ heededLast.stats.dismissed = ingest.stats.dismissed
      ∧ next.store.clock
        = if next.stats.merged = last.stats.merged then last.store.clock
          else last.store.clock.read.2 := by
  obtain ⟨effects, intake, undismissed⟩ := performAll_heeded_of_intake tasks (Eq.refl ingest.intake)
  refine ⟨effects, congrArg (·.store) intake, congrArg (·.stats.merged) intake,
    congrArg (·.stats.alerts) intake, congrArg (·.stats.pruned) intake,
    congrArg (·.stats.trafficUpdates) intake, undismissed, ?clock⟩
  case clock => exact clock_handle instant message (ingest.performAll tasks).2

end Ingest

end NetInventory
