import NetInventory.Json.Record

/-! Counted bytes. Counters stop at their greatest value. -/

namespace NetInventory

/-- Adds two counters and stops at the greatest value. -/
def saturatingAdd (left right : UInt64) : UInt64 :=
  .ofNat (min (left.toNat + right.toNat) (UInt64.size - 1))

/-- Bytes received and sent. -/
structure Amount where
  rx : UInt64
  tx : UInt64
deriving DecidableEq, Inhabited, Repr

namespace Amount

/-- No bytes. -/
def zero : Amount :=
  ⟨0, 0⟩

/-- The bytes of both amounts. -/
def add (left right : Amount) : Amount :=
  ⟨saturatingAdd left.rx right.rx, saturatingAdd left.tx right.tx⟩

instance : Add Amount :=
  ⟨add⟩

/-- The bytes in both directions. -/
def total (amount : Amount) : UInt64 :=
  saturatingAdd amount.rx amount.tx

/-- The fields of an amount. -/
def fields : Json.Fields (UInt64 × UInt64 × Unit) :=
  .cons (.required "rx" .uint64) <| .cons (.required "tx" .uint64) .nil

/-- The JSON form of an amount. -/
def codec : Json.Codec Amount :=
  .record fields (fun a => (a.rx, a.tx, ())) (fun (rx, tx, _) => ⟨rx, tx⟩)

end Amount

/-- The bytes counted for one address since the last report. -/
structure UsageReport where
  ip : String
  amount : Amount
deriving DecidableEq, Inhabited

namespace UsageReport

/-- The JSON form of a report, in which the amount stands beside the address. -/
def codec : Json.Codec UsageReport :=
  .objectRecord (.cons (.required "ip" .string) Amount.fields)
    (fun report => (report.ip, report.amount.rx, report.amount.tx, ()))
    (fun (ip, rx, tx, _) => ⟨ip, ⟨rx, tx⟩⟩)

end UsageReport

end NetInventory
