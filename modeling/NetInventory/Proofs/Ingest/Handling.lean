import NetInventory.Ingest
import NetInventory.Proofs.Inventory.Outline
import NetInventory.Proofs.Store.Bring

/-! One message handled, or stale devices removed. Whatever a message is, ingestion goes one of six
ways, and each way counts the message once besides its receipt. A device is announced exactly if it
is new.
-/

namespace NetInventory

/-- The sighting that a message holds. -/
def BusMessage.sighting? (message : BusMessage) : Option Sighting := do
  let topic ← Topic.ofText? message.topic
  let kind ← topic.sightingKind?
  (Sighting.ofBytes kind message.payload).toOption

namespace Ingest

/-- What is read as a record was made from the sighting that the message holds. -/
theorem exists_sighting_of_read {message : BusMessage} {raw : DeviceRecord}
    (read : Inbound.ofMessage message = .ok (.sighting raw))
    : ∃ sighting,
        message.sighting? = some sighting ∧ DeviceRecord.ofSighting sighting = .ok raw := by
  unfold Inbound.ofMessage at read
  split at read
  next => simp at read
  next topic named =>
    have made : DeviceRecord.ofPayload topic message.payload = .ok raw := by
      unfold Inbound.ofPayload at read
      split at read
      next => split at read <;> simp at read
      next => split at read <;> simp at read
      next =>
        cases payload : DeviceRecord.ofPayload topic message.payload with
        | error error => simp [payload, Except.map] at read
        | ok record => simpa [payload, Except.map] using read
    unfold DeviceRecord.ofPayload at made
    split at made
    next => simp at made
    next kind sighted =>
      split at made
      next => simp at made
      next sighting decoded =>
        have held : message.sighting? = some sighting := by
          simp [BusMessage.sighting?, named, sighted, decoded, Except.toOption]
        refine ⟨sighting, held, ?_⟩
        cases record : DeviceRecord.ofSighting sighting with
        | error error => simp [record, Except.mapError] at made
        | ok other => simpa [record, Except.mapError] using made

/-- The ways in which a message is handled, each with what others learn and how ingestion goes on.
-/
inductive Handled (instant : Int) (message : BusMessage) (ingest : Ingest)
    : List Effect → Ingest → Prop
  | unread {error}
    (read : Inbound.ofMessage message = .error error)
    : Handled instant message ingest [] <|
        ingest.count fun s =>
          { s with received := s.received + 1, decodeErrors := s.decodeErrors + 1 }
  | refused {raw error}
    (read : Inbound.ofMessage message = .ok (.sighting raw))
    (refused : Store.accept raw = .error error)
    : Handled instant message ingest [] <|
        ingest.count fun s => { s with received := s.received + 1, rejected := s.rejected + 1 }
  | merged {raw record merged created next}
    (read : Inbound.ofMessage message = .ok (.sighting raw))
    (accepted : Store.accept raw = .ok record)
    (brought
      : Store.Brought ingest.store.inventory record ingest.store.clock.read.1
          (.start ingest.store.binInterval ingest.store.reach instant) merged created next)
    : Handled instant message ingest
        ((if created then [.alert (.newDevice record)] else []) ++ [.merged merged]) <|
        Ingest.count
          { ingest with
            store :=
              { ingest.store with inventory := next, clock := ingest.store.clock.read.2 } }
          fun s =>
            { s with
              received := s.received + 1
              merged := s.merged + 1
              alerts := s.alerts + if created then 1 else 0 }
  | connected {flows}
    (read : Inbound.ofMessage message = .ok (.connections flows))
    : Handled instant message ingest [] <|
        Ingest.count { ingest with store := (ingest.store.replaceConnections flows).2 } fun s =>
          { s with received := s.received + 1, trafficUpdates := s.trafficUpdates + 1 }
  | counted {report}
    (read : Inbound.ofMessage message = .ok (.usage report))
    (found : (ingest.store.addUsage instant report.ip report.amount).1 = true)
    : Handled instant message ingest [] <|
        Ingest.count
          { ingest with store := (ingest.store.addUsage instant report.ip report.amount).2 }
          fun s => { s with received := s.received + 1, trafficUpdates := s.trafficUpdates + 1 }
  | uncounted {report}
    (read : Inbound.ofMessage message = .ok (.usage report))
    (missed : (ingest.store.addUsage instant report.ip report.amount).1 = false)
    : Handled instant message ingest [] <|
        Ingest.count
          { ingest with store := (ingest.store.addUsage instant report.ip report.amount).2 }
          fun s => { s with received := s.received + 1, rejected := s.rejected + 1 }

/-- Every message is handled in one of these ways, by cases on what is read and whether the store
takes it.
-/
theorem handled_handle (instant : Int) (message : BusMessage) (ingest : Ingest)
    : Handled instant message ingest (ingest.handle instant message).1
        (ingest.handle instant message).2 := by
  unfold handle
  cases read : Inbound.ofMessage message with
  | error error => exact .unread read
  | ok inbound =>
      cases inbound with
      | sighting raw =>
          cases accepted : Store.accept raw with
          | error error =>
              have refused := Store.mergeWith_of_refused (fun _ _ => ()) true instant
                ingest.store () accepted
              simp only [apply, merge, count, Store.merge, refused]
              exact .refused read accepted
          | ok record =>
              obtain ⟨merged, created, next, brought, result⟩ :=
                Store.mergeWith_of_accepted (fun _ _ => ()) true instant ingest.store () accepted
              have way := Handled.merged read accepted brought
              rw [brought.created_eq] at way
              simp only [apply, merge, count, Store.merge, result, if_true,
                Store.due?_of_accept accepted] at way ⊢
              cases resolved : ingest.store.inventory.resolve record.macAddress record.ips with
              | none => simpa [resolved] using way
              | some key => simpa [resolved] using way
      | connections flows => exact .connected read
      | usage report =>
          cases found : (ingest.store.addUsage instant report.ip report.amount).1 with
          | false =>
              simp only [apply, count, found]
              exact .uncounted read found
          | true =>
              simp only [apply, count, found]
              exact .counted read found

/-- Pruning takes devices out of the inventory and counts them. -/
theorem exists_prune (ingest : Ingest)
    : ∃ keys,
        ingest.prune.2.store.inventory = (ingest.store.inventory.takeAll keys).2
        ∧ ingest.prune.2.stats
          = { ingest.stats with
              pruned :=
                ingest.stats.pruned + (ingest.store.inventory.takeAll keys).1.length } :=
  ⟨_, rfl, rfl⟩

end Ingest

end NetInventory
