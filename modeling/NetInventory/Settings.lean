import NetInventory.Collector.Command

/-! Discovery settings: which collectors run on their own, and how often. One entry that is not
in order makes the whole settings invalid.
-/

namespace NetInventory

/-- The settings of one collector. -/
structure CollectorSettings where
  collector : CollectorName
  enabled : Bool
  /-- Minutes between two scans. -/
  autoInterval : UInt64
deriving DecidableEq, Repr

namespace CollectorSettings

/-- The least number of minutes between two scans: an hour. -/
def leastInterval : UInt64 :=
  60

/-- The greatest number of minutes between two scans: 365 days. -/
def greatestInterval : UInt64 :=
  525600

/-- The JSON form of the settings of a collector. -/
def codec : Json.Codec CollectorSettings :=
  .record
    (.cons (.required "type" .string) <|
      .cons (.required "enabled" .bool) <|
      .cons (.required "autoInterval" .uint64) .nil)
    (fun s => (s.collector, s.enabled, s.autoInterval, ()))
    (fun (collector, enabled, autoInterval, _) => ⟨collector, enabled, autoInterval⟩)

/-- Whether the time between two scans is neither too short nor too long. -/
def isTimely (settings : CollectorSettings) : Bool :=
  leastInterval ≤ settings.autoInterval && settings.autoInterval ≤ greatestInterval

end CollectorSettings

/-- The settings of discovery. -/
structure DiscoverySettings where
  enabled : Bool
  plugins : List CollectorSettings
deriving DecidableEq, Repr

/-- Why settings are invalid. An index counts the entries from zero. -/
inductive SettingsError where
  /-- The document has not the shape of settings. -/
  | parse
  /-- An entry names no known collector. -/
  | unknownType (index : Nat) (name : String)
  /-- An entry has not the shape of the settings of a collector. -/
  | malformed (index : Nat) (collector : CollectorName)
  /-- An entry asks for too short or too long a time between scans. -/
  | intervalOutOfRange (index : Nat) (collector : CollectorName) (minutes : UInt64)
deriving DecidableEq, Repr

/-- The wording of an error, where it has one of its own. -/
def SettingsError.message? : SettingsError → Option String
  | parse => none
  | unknownType index name =>
    some ("plugin #" ++ toString index ++ ": unknown collector type '" ++ name ++ "'")
  | malformed _ _ => none
  | intervalOutOfRange index collector minutes =>
    some ("plugin #" ++ toString index ++ " (" ++ collector
      ++ "): autoInterval should be between " ++ toString CollectorSettings.leastInterval.toNat
      ++ " and " ++ toString CollectorSettings.greatestInterval.toNat ++ " minutes but is "
      ++ toString minutes.toNat)

namespace DiscoverySettings

/-- The collector that an entry names; empty text if it names none. -/
def typeOf (entry : Json) : String :=
  ((entry.member? "type").bind Json.string?).getD ""

/-- Checks an entry: the collector is known, the entry has the shape of its settings, and the time
between scans is neither too short nor too long.
-/
def checkEntry (index : Nat) (entry : Json) : Except SettingsError CollectorSettings :=
  let name := typeOf entry
  if !CollectorName.known.contains name then
    .error (.unknownType index name)
  else
    match CollectorSettings.codec.ofJson entry with
    | .error _ => .error (.malformed index name)
    | .ok settings =>
      if settings.isTimely then .ok settings
      else .error (.intervalOutOfRange index name settings.autoInterval)

/-- Checks entries in their order and stops at the first one that is not in order. -/
def checkEntries (index : Nat) : List Json → Except SettingsError (List CollectorSettings)
  | [] => .ok []
  | entry :: rest => do
    let settings ← checkEntry index entry
    return settings :: (← checkEntries (index + 1) rest)

/-- The shape of a settings document, whose entries are still to be checked. -/
def shape : Json.Codec (Bool × List Json) :=
  .record
    (.cons (.optional "enabled" .bool false) <|
      .cons (.optional "plugins" (.list .any) []) .nil)
    (fun (enabled, plugins) => (enabled, plugins, ()))
    (fun (enabled, plugins, _) => (enabled, plugins))

/-- Checks the entries of a document that has been read. -/
def ofShape (document : Bool × List Json) : Except SettingsError DiscoverySettings := do
  return ⟨document.1, ← checkEntries 0 document.2⟩

/-- The settings that a JSON value stands for. -/
def ofJson (json : Json) : Except SettingsError DiscoverySettings :=
  match shape.ofJson json with
  | .error _ => .error .parse
  | .ok document => ofShape document

/-- The settings that a document holds. -/
def ofText (document : String) : Except SettingsError DiscoverySettings :=
  match shape.ofBytes document.toUTF8 with
  | .error _ => .error .parse
  | .ok document => ofShape document

end DiscoverySettings

end NetInventory
