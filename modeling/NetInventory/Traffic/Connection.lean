import NetInventory.Json.Record

/-! Network flows that are attributed to devices. -/

namespace NetInventory

/-- A flow between a client and a server. -/
structure Connection where
  clientAddress : String
  clientPort : UInt16
  serverAddress : String
  serverPort : UInt16
  protocol : String
  /-- Bytes in a second, in both directions. -/
  byteRate : UInt64
deriving DecidableEq, Inhabited

namespace Connection

/-- The JSON form of a flow. -/
def codec : Json.Codec Connection :=
  .record
    (.cons (.optional "clientAddress" .string "") <|
      .cons (.optional "clientPort" .uint16 0) <|
      .cons (.optional "serverAddress" .string "") <|
      .cons (.optional "serverPort" .uint16 0) <|
      .cons (.optional "protocol" .string "") <|
      .cons (.optional "byteRate" .uint64 0) .nil)
    (fun c =>
      (c.clientAddress, c.clientPort, c.serverAddress, c.serverPort, c.protocol, c.byteRate, ()))
    (fun (clientAddress, clientPort, serverAddress, serverPort, protocol, byteRate, _) =>
      ⟨clientAddress, clientPort, serverAddress, serverPort, protocol, byteRate⟩)

end Connection

end NetInventory
