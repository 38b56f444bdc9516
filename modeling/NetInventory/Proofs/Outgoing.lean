import NetInventory.Control.Message
import NetInventory.Proofs.Reporting
import NetInventory.Store.Summary

/-! What goes out is read back. Records, alerts, commands and requests are decoded from their text
as what was written. A listing is read as the records of its devices, in their order: what a record
leaves out stands for what an absent field means, and the totals beside it are passed over.
-/

namespace NetInventory

open Json (Codec depthLimit)

variable {height : Nat}

-----------------------------------------------------------------------------------------
-- Records and listings
-----------------------------------------------------------------------------------------

private theorem DeviceRecord.carries_contents (record : DeviceRecord)
    : fields.Carries (height + 4) record.contents :=
  ⟨.optional (.string _), .optional (.string _), .optional (.int64 _),
    .sparse SortedMap.eq_empty_of_isEmpty (.map fun entry _ => entry.carries),
    .sparse SortedMap.eq_empty_of_isEmpty (.map fun entry _ => entry.carries),
    .sparse SortedMap.eq_empty_of_isEmpty (.map fun entry _ => entry.carries),
    .sparse SortedMap.eq_empty_of_isEmpty (.map fun entry _ => entry.carries),
    .sparse (fun none => (List.isEmpty_iff.mp none).symm) (.list fun flow _ => flow.carries),
    trivial⟩

theorem DeviceRecord.carries (record : DeviceRecord)
    : DeviceRecord.codec.Carries (height + 5) record :=
  .record (by decide) record.carries_contents rfl

theorem SessionDetail.carries (detail : SessionDetail)
    : SessionDetail.codec.Carries (height + 1) detail :=
  .record (by decide)
    ⟨.required (.uint64 _), .required (.uint64 _), .required (.uint64 _), .required (.uint64 _),
      .required (.uint64 _), trivial⟩ rfl

theorem DeviceSummary.whole_encode (summary : DeviceSummary) : summary.encode.Whole := by
  have contents : DeviceRecord.fields.Carries 4 summary.record.contents :=
    summary.record.carries_contents
  have detail : SessionDetail.codec.Carries 1 summary.sessionDetail := summary.sessionDetail.carries
  refine .object fun member among => ?_
  rcases List.mem_append.mp among with field | beside
  · exact Json.Fields.whole_members contents member field
  · obtain rfl := List.mem_singleton.mp beside
    exact detail.whole

/-- A summary is read as its record: no field of a record has the name of the totals beside it. -/
theorem DeviceSummary.decode_encode (summary : DeviceSummary) {depth : Nat} (room : 5 ≤ depth)
    : DeviceRecord.codec.decode depth (.ofJson summary.encode) = .ok summary.record := by
  have record : DeviceRecord.codec.Carries 5 summary.record := summary.record.carries
  have passed
      : DeviceRecord.codec.decode depth (.ofJson summary.encode)
        = DeviceRecord.codec.decode depth (.ofJson (DeviceRecord.codec.encode summary.record)) := by
    refine Codec.decode_record_append ?_ _ depth
    intro member beside
    obtain rfl := List.mem_singleton.mp beside
    show "sessionDetail" ∉ DeviceRecord.fields.names
    decide
  exact passed.trans (record.decoded depth room)

theorem Store.ofBytes_toJson (store : Store) (conditions : List Condition)
    : (Codec.list DeviceRecord.codec).ofBytes (store.toJson conditions).toBytes
      = .ok (store.list conditions) := by
  have whole : (store.toJson conditions).Whole := by
    refine .array fun item among => ?_
    obtain ⟨summary, -, rfl⟩ := List.mem_map.mp among
    exact summary.whole_encode
  have read : (Codec.list DeviceRecord.codec).ofJson (store.toJson conditions)
      = .ok ((store.summaries conditions).map (·.record)) :=
    Codec.Carries.decode_list (fun summary _ _ room => summary.decode_encode room) (by decide)
  have listed : (store.summaries conditions).map (·.record) = store.list conditions := by
    simp only [summaries, list, List.map_map]
    rfl
  rw [Codec.ofBytes_toBytes _ whole, read, listed]

-----------------------------------------------------------------------------------------
-- Alerts, commands and requests
-----------------------------------------------------------------------------------------

/-- An alert that was not sent yet is carried: the instant that it lacks is left out. -/
theorem Alert.carries_unsent {alert : Alert} (unsent : alert.timestamp = none)
    : Alert.codec.Carries (height + 2) alert := by
  obtain ⟨kind, message, params, timestamp⟩ := alert
  obtain rfl : timestamp = none := unsent
  have named : AlertKind.codec.Carries (height + 1) kind := .choice (by cases kind <;> rfl)
  exact .record (by decide)
    ⟨.required named, .required (.string _), .required (.map fun param _ => .string param), rfl,
      trivial⟩ rfl

theorem Command.carries (command : Command) : Command.codec.Carries (height + 2) command := by
  have kind : CommandKind.codec.Carries (height + 1) command.kind := by
    refine .integer ?_ ?_
    · cases command.kind <;> exact ⟨by decide, by decide⟩
    · cases command.kind <;> rfl
  exact .record (by decide)
    ⟨.required kind, .required (.list fun argument _ => .string argument), trivial⟩ rfl

namespace Control

theorem ScanNetRequest.carries (request : ScanNetRequest)
    : ScanNetRequest.codec.Carries (height + 2) request :=
  .record (by decide) ⟨.optional (.list fun net _ => .string net), trivial⟩ rfl

theorem ScanHostRequest.carries (request : ScanHostRequest)
    : ScanHostRequest.codec.Carries (height + 2) request :=
  .record (by decide) ⟨.optional (.list fun host _ => .string host), trivial⟩ rfl

theorem CallCollectorsRequest.carries (request : CallCollectorsRequest)
    : CallCollectorsRequest.codec.Carries (height + 4) request :=
  .record (by decide)
    ⟨.optional (.list fun name _ => .string name),
      .optional (.list fun command _ => command.carries), trivial⟩ rfl

end Control

-----------------------------------------------------------------------------------------
-- Reading back
-----------------------------------------------------------------------------------------

/-- Whatever goes out is read back as it was: every record, every listing of a store as the records
that are listed, every alert that was not sent yet, and every command and request.
-/
theorem outgoing_read_back (record : DeviceRecord) (store : Store) (conditions : List Condition)
    (kind : AlertKind) (message : String) (params : SortedMap String) (command : Command)
    (call : Control.CallCollectorsRequest) (nets : Control.ScanNetRequest)
    (hosts : Control.ScanHostRequest)
    : DeviceRecord.codec.ofBytes (DeviceRecord.codec.toBytes record) = .ok record
      ∧ (Codec.list DeviceRecord.codec).ofBytes (store.toJson conditions).toBytes
        = .ok (store.list conditions)
      ∧ Alert.codec.ofBytes (Alert.codec.toBytes ⟨kind, message, params, none⟩)
        = .ok ⟨kind, message, params, none⟩
      ∧ Command.codec.ofBytes (Command.codec.toBytes command) = .ok command
      ∧ Control.CallCollectorsRequest.codec.ofBytes
          (Control.CallCollectorsRequest.codec.toBytes call)
        = .ok call
      ∧ Control.ScanNetRequest.codec.ofBytes (Control.ScanNetRequest.codec.toBytes nets) = .ok nets
      ∧ Control.ScanHostRequest.codec.ofBytes (Control.ScanHostRequest.codec.toBytes hosts)
        = .ok hosts :=
  ⟨
    record.carries.ofBytes,
    store.ofBytes_toJson conditions,
    (Alert.carries_unsent rfl).ofBytes,
    command.carries.ofBytes,
    call.carries.ofBytes,
    nets.carries.ofBytes,
    hosts.carries.ofBytes
  ⟩

end NetInventory
