import NetInventory.Control.Service
import NetInventory.Proofs.Outgoing
import NetInventory.Proofs.Publisher.Room

/-! Publishing the whole inventory again. Every stored record is offered in the order of the keys,
and the answer says that it was. How many of them the publisher accepts depends on its room, of
which the answer says nothing.
-/

namespace NetInventory

/-- The message tells what is known of a device: it carries the record under the topic of devices.
-/
def BusMessage.Tells (stored : StoredDevice) (message : BusMessage) : Prop :=
  message.topic = Topic.device.text
  ∧ DeviceRecord.codec.ofBytes message.payload = .ok stored.record

theorem BusMessage.tells_ofRecord (stored : StoredDevice)
    : Tells stored (.ofRecord stored.record) := by
  have carries : DeviceRecord.codec.Carries Json.depthLimit stored.record := stored.record.carries
  have payload : (BusMessage.ofRecord stored.record).payload
      = (DeviceRecord.codec.encode stored.record).toBytes := by
    rw [ofRecord, ofJson]
  exact ⟨rfl, payload ▸ carries.ofBytes⟩

theorem Store.list_nil (store : Store)
    : store.list [] = store.inventory.devices.values.map (·.record) := by
  simp [list, Inventory.matching, SortedMap.toList, SortedMap.values]

namespace Control.Service

variable {κ : Type}

/-- Each stored device has a message that tells of it. -/
theorem forall₂_tells (store : Store)
    : List.Forall₂ BusMessage.Tells store.inventory.devices.values
        ((store.list []).map BusMessage.ofRecord) := by
  rw [store.list_nil, List.map_map, List.forall₂_map_right_iff, List.forall₂_same]
  intro stored _
  exact BusMessage.tells_ofRecord stored

/-- The publisher has come to hold one more message for each stored device, in the order of the
keys, and the store is as before.
-/
def Republished (before after : Service κ) : Prop :=
  ∃ messages,
    List.Forall₂ BusMessage.Tells before.store.inventory.devices.values messages
    ∧ after.publisher.queue = before.publisher.queue ++ messages
    ∧ after.store = before.store

/-- The answer is always the same. One message for each stored device is offered, in the order of
the keys; the publisher accepts as many of them as it has room for, and the others are dropped and
counted. Nothing else changes, so the whole inventory is in the queue afterwards exactly if there
was room for it.
-/
theorem publishAll_offers (service : Service κ)
    : ∃ messages,
        List.Forall₂ BusMessage.Tells service.store.inventory.devices.values messages
        ∧ service.publishAll
          = (.ok,
              { service with
                publisher :=
                  { service.publisher with
                    queue := service.publisher.queue ++ messages.take service.publisher.room
                    stats :=
                      { service.publisher.stats with
                        dropped :=
                          service.publisher.stats.dropped
                          + (messages.length - service.publisher.room) } } })
        ∧ (Republished service service.publishAll.2
          ↔ service.store.size ≤ service.publisher.room) := by
  have tells := forall₂_tells service.store
  have offered := service.publisher.offer_eq ((service.store.list []).map BusMessage.ofRecord)
  generalize shape : (service.store.list []).map BusMessage.ofRecord = messages at tells offered
  have answer : service.publishAll
      = (.ok, { service with publisher := service.publisher.offer messages }) := by
    rw [← shape]
    rfl
  have many : service.store.size = messages.length := by
    rw [← tells.length_eq, SortedMap.values, List.length_map]
    rfl
  refine ⟨messages, tells, by rw [answer, offered], ?_⟩
  rw [answer, offered, many]
  constructor
  · intro republished
    obtain ⟨accepted, told, queue, -⟩ := republished
    have same := List.append_cancel_left queue
    have all : accepted.length = messages.length := told.length_eq.symm.trans tells.length_eq
    rw [← same, List.length_take] at all
    omega
  · intro room
    exact ⟨messages, tells, by rw [List.take_of_length_le room], rfl⟩

/-- Of two devices a publisher with room for one message takes the first one only, and the answer is
the same.
-/
theorem publishAll_overfull
    : let first := (Store.standard (.fixed 1000)).merge 0 (.withMac "aa:aa:aa:aa:aa:aa")
      let second := first.2.merge 0 (.withMac "bb:bb:bb:bb:bb:bb")
      let service : Service Unit := ⟨second.2, .empty, .start 60000, .create 1⟩
      service.publishAll.1 = .ok
      ∧ service.publishAll.2.publisher.stats.dropped = 1
      ∧ ¬ Republished service service.publishAll.2 := by
  intro first second service
  have devices : service.store.inventory.devices.values.length = 2 := by decide +kernel
  have queue : service.publishAll.2.publisher.queue.length = 1 := by decide +kernel
  refine ⟨rfl, by decide +kernel, fun ⟨messages, tells, accepted, _⟩ => ?_⟩
  have many : messages.length = 2 := tells.length_eq.symm.trans devices
  rw [accepted, List.length_append, many] at queue
  omega

end Control.Service

end NetInventory
