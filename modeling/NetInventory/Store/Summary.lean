import NetInventory.Store.Basic

/-! Summaries: records together with the totals of their flows and traffic. -/

namespace NetInventory

/-- The totals of a device. -/
structure SessionDetail where
  /-- Bytes in a second over all flows. -/
  byteTransferRate : UInt64
  numSessions : UInt64
  dataUsage : UInt64
  rxTotal : UInt64
  txTotal : UInt64
deriving DecidableEq, Repr

/-- The JSON form of totals. -/
def SessionDetail.codec : Json.Codec SessionDetail :=
  .record
    (.cons (.required "byteTransferRate" .uint64) <|
      .cons (.required "numSessions" .uint64) <|
      .cons (.required "dataUsage" .uint64) <|
      .cons (.required "rxTotal" .uint64) <|
      .cons (.required "txTotal" .uint64) .nil)
    (fun d => (d.byteTransferRate, d.numSessions, d.dataUsage, d.rxTotal, d.txTotal, ()))
    (fun (byteTransferRate, numSessions, dataUsage, rxTotal, txTotal, _) =>
      ⟨byteTransferRate, numSessions, dataUsage, rxTotal, txTotal⟩)

/-- A record and the totals of its device. -/
structure DeviceSummary where
  record : DeviceRecord
  sessionDetail : SessionDetail
deriving DecidableEq

/-- The JSON value of a summary: the members of the record, and the totals behind them. -/
def DeviceSummary.encode (summary : DeviceSummary) : Json :=
  .object <| DeviceRecord.fields.members summary.record.contents
    ++ [("sessionDetail", SessionDetail.codec.encode summary.sessionDetail)]

/-- The totals of a device. -/
def StoredDevice.sessionDetail (stored : StoredDevice) : SessionDetail :=
  let total := stored.usage.total
  { byteTransferRate :=
      stored.record.connections.foldl (fun rate c => saturatingAdd rate c.byteRate) 0
    numSessions := .ofNat stored.record.connections.length
    dataUsage := total.total
    rxTotal := total.rx
    txTotal := total.tx }

/-- The summary of a device. -/
def StoredDevice.summary (stored : StoredDevice) : DeviceSummary :=
  ⟨stored.record, stored.sessionDetail⟩

/-- The summaries of the devices whose records fulfil every condition, in the order of their
keys.
-/
def Store.summaries (store : Store) (conditions : List Condition) : List DeviceSummary :=
  (store.inventory.matching conditions).map (·.2.summary)

/-- The JSON value of the summaries. -/
def Store.toJson (store : Store) (conditions : List Condition) : Json :=
  .array ((store.summaries conditions).map (·.encode))

end NetInventory
