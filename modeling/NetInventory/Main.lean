import NetInventory.Config

/-! The command line: reads a configuration from standard input, checks it, and tells what runs
under it. An argument names the address of the control service in case the configuration does not.
-/

namespace NetInventory

/-- What a user is told about a configuration that cannot be used. -/
def ConfigError.complaint (error : ConfigError) : String :=
  error.message?.getD <|
    match error with
    | io => "the configuration is not text"
    | settings (.malformed index collector) =>
      "plugin #" ++ toString index ++ " (" ++ collector ++ "): malformed settings"
    | _ => "the configuration has not the right shape"

/-- What a user is told about the collectors that are enabled. -/
def DiscoverySettings.announcements (settings : DiscoverySettings) : List String :=
  (settings.plugins.filter (·.enabled)).map fun plugin =>
    plugin.collector ++ ": scanning every " ++ toString plugin.autoInterval.toNat ++ " minutes"

/-- What a user is told about a configuration. -/
def Config.announcements (config : Config) : List String :=
  (match config.discoverySettings with
    | .ok (some settings) => settings.announcements
    | _ => [])
    ++ (if config.controlEnabled then ["control: listening on " ++ config.bindAddress.text]
      else [])

/-- Reads a stream to its end. -/
partial def readStream (stream : IO.FS.Stream) (bytes : ByteArray) : IO ByteArray := do
  let chunk ← stream.read 65536
  if chunk.isEmpty then return bytes else readStream stream (bytes ++ chunk)

/-- Tells what runs under the configuration on standard input; fails if there is none. -/
def checkInput (arguments : List String) : IO UInt32 := do
  let bytes ← readStream (← IO.getStdin) .empty
  match Config.ofBytes arguments.head? bytes with
  | .ok config =>
    for line in config.announcements do
      IO.println line
    return 0
  | .error error =>
    IO.eprintln error.complaint
    return 1

end NetInventory

/-- Checks the configuration on standard input. -/
def main (arguments : List String) : IO UInt32 :=
  NetInventory.checkInput arguments
