import NetInventory.Config
import NetInventory.Proofs.Json.Records

/-! Discovery settings are accepted as a whole or not at all. Each entry has to give settings that
are sound, and the first entry that does not gives the error. A file is refused if the section on
discovery in it has an entry that is not valid.
-/

namespace NetInventory

open Json (Codec Draft Field Fields)

namespace DiscoverySettings

-----------------------------------------------------------------------------------------
-- Entries
-----------------------------------------------------------------------------------------

/-- The entry names a collector that can be configured. -/
def NamesKnown (entry : Json) : Prop :=
  ∃ collector ∈ CollectorName.known, entry.member? "type" = some (.string collector)

/-- The entry is an object that gives the settings under their names. -/
structure Gives (entry : Json) (settings : CollectorSettings) : Prop where
  collector : entry.member? "type" = some (.string settings.collector)
  enabled : entry.member? "enabled" = some (.bool settings.enabled)
  autoInterval : entry.member? "autoInterval" = some (.ofNat settings.autoInterval.toNat)

/-- The entry gives settings of a known collector, which is to run not more often than every hour
and not less often than every 365 days.
-/
structure Sound (entry : Json) (settings : CollectorSettings) : Prop
    extends Gives entry settings where
  known : settings.collector ∈ CollectorName.known
  least : 60 ≤ settings.autoInterval.toNat
  greatest : settings.autoInterval.toNat ≤ 525600

/-- The entry gives sound settings. -/
def Valid (entry : Json) : Prop :=
  ∃ settings, Sound entry settings

/-- What is wrong with the entry at a place. The collector comes before the shape, and the shape
before the time between two scans.
-/
inductive Fails (index : Nat) (entry : Json) : SettingsError → Prop
  | unknownType (unknown : ¬ NamesKnown entry)
    : Fails index entry (.unknownType index (typeOf entry))
  | malformed (known : NamesKnown entry) (misfit : ∀ settings, ¬ Gives entry settings)
    : Fails index entry (.malformed index (typeOf entry))
  | intervalOutOfRange {settings : CollectorSettings} (known : NamesKnown entry)
      (gives : Gives entry settings)
      (untimely : settings.autoInterval.toNat < 60 ∨ 525600 < settings.autoInterval.toNat)
    : Fails index entry
        (.intervalOutOfRange index settings.collector settings.autoInterval)

theorem typeOf_of_member? {entry : Json} {collector : CollectorName}
    (named : entry.member? "type" = some (.string collector))
    : typeOf entry = collector := by
  simp [typeOf, named, Json.string?]

/-- An entry that names no collector is taken to name one without letters, which is not known. -/
theorem typeOf_mem_known_iff {entry : Json}
    : typeOf entry ∈ CollectorName.known ↔ NamesKnown entry := by
  constructor
  · intro known
    cases found : (entry.member? "type").bind Json.string? with
    | none => simp [typeOf, found, CollectorName.known] at known
    | some name =>
        obtain ⟨value, named, text⟩ := Option.bind_eq_some_iff.mp found
        rw [typeOf, found, Option.getD_some] at known
        cases value with
        | string content => exact ⟨name, known, named.trans (by simpa [Json.string?] using text)⟩
        | _ => cases text
  · rintro ⟨collector, known, named⟩
    rwa [typeOf_of_member? named]

theorem NamesKnown.collector_mem {entry : Json} {settings : CollectorSettings}
    (known : NamesKnown entry) (gives : Gives entry settings)
    : settings.collector ∈ CollectorName.known := by
  rw [← typeOf_of_member? gives.collector]
  exact typeOf_mem_known_iff.mpr known

/-- The settings of a collector are read from an entry that gives them. -/
theorem ofJson_eq_ok_iff {entry : Json} {settings : CollectorSettings} (ordered : entry.Ordered)
    (known : NamesKnown entry)
    : CollectorSettings.codec.ofJson entry = .ok settings ↔ Gives entry settings := by
  obtain ⟨members, rfl⟩ : ∃ members, entry = .object members := by
    obtain ⟨collector, -, named⟩ := known
    cases entry with
    | object members => exact ⟨members, rfl⟩
    | _ => cases named
  unfold Codec.ofJson CollectorSettings.codec Json.depthLimit
  rw [Codec.record_decode_object_iff ordered.names_nodup]
  simp only [Fields.Hold, Field.finds_required_iff, Codec.string_decode_ofJson_iff,
    Codec.bool_decode_ofJson_iff, Codec.uint64_decode_ofJson_iff, exists_eq_right]
  constructor
  · rintro ⟨_, ⟨collector, enabled, autoInterval, _⟩, rfl⟩
    exact ⟨collector, enabled, autoInterval⟩
  · rintro ⟨collector, enabled, autoInterval⟩
    exact ⟨(_, _, _, ()), ⟨collector, enabled, autoInterval, trivial⟩, rfl⟩

theorem isTimely_iff {settings : CollectorSettings}
    : settings.isTimely = true
      ↔ 60 ≤ settings.autoInterval.toNat ∧ settings.autoInterval.toNat ≤ 525600 := by
  simp only [CollectorSettings.isTimely, Bool.and_eq_true, decide_eq_true_eq,
    UInt64.le_iff_toNat_le]
  rfl

private theorem checkEntry_unknown {index : Nat} {entry : Json} (unknown : ¬ NamesKnown entry)
    : checkEntry index entry = .error (.unknownType index (typeOf entry)) := by
  have unlisted : typeOf entry ∉ CollectorName.known := mt typeOf_mem_known_iff.mp unknown
  simp [checkEntry, unlisted]

private theorem checkEntry_misfit {index : Nat} {entry : Json} (ordered : entry.Ordered)
    (known : NamesKnown entry) (misfit : ∀ settings, ¬ Gives entry settings)
    : checkEntry index entry = .error (.malformed index (typeOf entry)) := by
  have listed : typeOf entry ∈ CollectorName.known := typeOf_mem_known_iff.mpr known
  cases read : CollectorSettings.codec.ofJson entry with
  | error fault => simp [checkEntry, listed, read]
  | ok settings => exact absurd ((ofJson_eq_ok_iff ordered known).mp read) (misfit settings)

private theorem checkEntry_gives {index : Nat} {entry : Json} {settings : CollectorSettings}
    (ordered : entry.Ordered) (known : NamesKnown entry) (gives : Gives entry settings)
    : checkEntry index entry
      = if settings.isTimely then .ok settings
        else .error (.intervalOutOfRange index settings.collector settings.autoInterval) := by
  have listed : settings.collector ∈ CollectorName.known := known.collector_mem gives
  have read : CollectorSettings.codec.ofJson entry = .ok settings :=
    (ofJson_eq_ok_iff ordered known).mpr gives
  simp [checkEntry, typeOf_of_member? gives.collector, listed, read]

/-- The check of an entry accepts sound settings or tells what is wrong. Witness: the collector is
known or not, the entry gives settings or none, and these are timely or not.
-/
theorem checkEntry_outcome (index : Nat) {entry : Json} (ordered : entry.Ordered)
    : (∃ settings, checkEntry index entry = .ok settings ∧ Sound entry settings)
      ∨ ∃ error, checkEntry index entry = .error error ∧ Fails index entry error := by
  by_cases known : NamesKnown entry
  · by_cases given : ∃ settings, Gives entry settings
    · obtain ⟨settings, gives⟩ := given
      rw [checkEntry_gives ordered known gives]
      split
      next timely =>
        obtain ⟨least, greatest⟩ := isTimely_iff.mp timely
        exact .inl ⟨settings, rfl, gives, known.collector_mem gives, least, greatest⟩
      next late =>
        rw [isTimely_iff] at late
        exact .inr ⟨_, rfl, .intervalOutOfRange known gives (by omega)⟩
    · have misfit := not_exists.mp given
      exact .inr ⟨_, checkEntry_misfit ordered known misfit, .malformed known misfit⟩
  · exact .inr ⟨_, checkEntry_unknown known, .unknownType known⟩

/-- An entry is accepted with settings that it gives and that are sound, and no others. -/
theorem checkEntry_eq_ok_iff {index : Nat} {entry : Json} {settings : CollectorSettings}
    (ordered : entry.Ordered)
    : checkEntry index entry = .ok settings ↔ Sound entry settings := by
  constructor
  · intro accepted
    rcases checkEntry_outcome index ordered with ⟨given, checked, sound⟩ | ⟨error, checked, -⟩
    · obtain rfl := Except.ok.inj (checked.symm.trans accepted)
      exact sound
    · cases checked.symm.trans accepted
  · intro sound
    have known : NamesKnown entry := ⟨settings.collector, sound.known, sound.collector⟩
    have timely : settings.isTimely = true := isTimely_iff.mpr ⟨sound.least, sound.greatest⟩
    rw [checkEntry_gives ordered known sound.toGives, if_pos timely]

/-- An entry is refused for what is wrong with it. -/
theorem checkEntry_eq_error_iff {index : Nat} {entry : Json} {error : SettingsError}
    (ordered : entry.Ordered)
    : checkEntry index entry = .error error ↔ Fails index entry error := by
  constructor
  · intro refused
    rcases checkEntry_outcome index ordered with ⟨given, checked, -⟩ | ⟨fault, checked, fails⟩
    · cases checked.symm.trans refused
    · obtain rfl := Except.error.inj (checked.symm.trans refused)
      exact fails
  · intro fails
    cases fails with
    | unknownType unknown => exact checkEntry_unknown unknown
    | malformed known misfit => exact checkEntry_misfit ordered known misfit
    | @intervalOutOfRange settings known gives untimely =>
        have late : ¬ settings.isTimely = true := by
          rw [isTimely_iff]
          omega
        rw [checkEntry_gives ordered known gives, if_neg late]

/-- An entry that fails is not valid. -/
theorem Fails.not_valid {index : Nat} {entry : Json} {error : SettingsError}
    (fails : Fails index entry error)
    : ¬ Valid entry := by
  rintro ⟨settings, sound⟩
  cases fails with
  | unknownType unknown =>
      exact unknown ⟨settings.collector, sound.known, sound.collector⟩
  | malformed known misfit => exact misfit settings sound.toGives
  | @intervalOutOfRange other known gives untimely =>
      have same : settings.autoInterval.toNat = other.autoInterval.toNat := by
        simpa [Json.ofNat, Int.natCast_inj] using sound.autoInterval.symm.trans gives.autoInterval
      have least := sound.least
      have greatest := sound.greatest
      omega

theorem valid_of_sound {entries : List Json} {settings : List CollectorSettings}
    (all : List.Forall₂ Sound entries settings)
    : ∀ entry ∈ entries, Valid entry := by
  intro entry among
  obtain ⟨given, -, sound⟩ := Json.exists_of_mem_right all.flip among
  exact ⟨given, sound⟩

-----------------------------------------------------------------------------------------
-- Entries one after the other
-----------------------------------------------------------------------------------------

/-- All entries are accepted if each is, with their settings in their order, by induction on the
entries.
-/
theorem checkEntries_eq_ok_iff {index : Nat} {entries : List Json}
    {settings : List CollectorSettings} (ordered : ∀ entry ∈ entries, entry.Ordered)
    : checkEntries index entries = .ok settings ↔ List.Forall₂ Sound entries settings := by
  induction entries generalizing index settings with
  | nil => simp [checkEntries, eq_comm]
  | cons entry entries ih =>
      obtain ⟨first, later⟩ := List.forall_mem_cons.mp ordered
      simp only [checkEntries, Json.bind_eq_ok_iff, checkEntry_eq_ok_iff first, ih later,
        List.forall₂_cons_left_iff]
      constructor
      · rintro ⟨given, sound, others, all, whole⟩
        exact ⟨given, others, sound, all, (Except.ok.inj whole).symm⟩
      · rintro ⟨given, others, sound, all, rfl⟩
        exact ⟨given, sound, others, all, rfl⟩

/-- The first entry that is refused gives the error, by induction on the entries. -/
theorem checkEntries_eq_error_iff {index : Nat} {entries : List Json} {error : SettingsError}
    (ordered : ∀ entry ∈ entries, entry.Ordered)
    : checkEntries index entries = .error error
      ↔ ∃ front entry rest,
          entries = front ++ entry :: rest
          ∧ (∀ earlier ∈ front, Valid earlier)
          ∧ Fails (index + front.length) entry error := by
  induction entries generalizing index with
  | nil => simp [checkEntries]
  | cons entry entries ih =>
      obtain ⟨first, later⟩ := List.forall_mem_cons.mp ordered
      simp only [checkEntries, Json.bind_eq_error_iff, checkEntry_eq_ok_iff first,
        checkEntry_eq_error_iff first, ih later]
      have along (front : List Json)
          : index + 1 + front.length = index + (entry :: front).length := by
        rw [List.length_cons, Nat.add_assoc, Nat.add_comm 1]
      constructor
      · rintro (fails | ⟨given, sound, ⟨front, fault, rest, rfl, valid, fails⟩ | ⟨_, _, never⟩⟩)
        · exact ⟨[], entry, entries, rfl, by simp, fails⟩
        · rw [along] at fails
          exact ⟨entry :: front, fault, rest, rfl,
            List.forall_mem_cons.mpr ⟨⟨given, sound⟩, valid⟩, fails⟩
        · cases never
      · rintro ⟨front, fault, rest, parted, valid, fails⟩
        cases front with
        | nil =>
            obtain ⟨rfl, rfl⟩ := List.cons.inj parted
            exact .inl fails
        | cons head front =>
            obtain ⟨rfl, rfl⟩ := List.cons.inj parted
            obtain ⟨⟨given, sound⟩, valid⟩ := List.forall_mem_cons.mp valid
            rw [← along] at fails
            exact .inr ⟨given, sound, .inl ⟨front, fault, rest, rfl, valid, fails⟩⟩

-----------------------------------------------------------------------------------------
-- Documents
-----------------------------------------------------------------------------------------

/-- The draft lists the entries: they are kept of the part for them, and without that there are
none.
-/
def Lists (draft : Draft) (plugins : List Json) : Prop :=
  match draft.part? 1 "plugins" with
  | some part => ∃ room, Json.keep room part = .ok (.array plugins)
  | none => plugins = []

theorem lists_of_shape {depth : Nat} {draft : Draft} {enabled : Bool} {plugins : List Json}
    (read : shape.decode depth draft = .ok (enabled, plugins))
    : Lists draft plugins := by
  obtain ⟨left, ⟨_, listed, _⟩, ⟨-, finds, -⟩, built⟩ := Codec.record_decode read
  obtain ⟨-, rfl⟩ := Prod.mk.inj built
  change (Field.optional "plugins" (Codec.list .any) []).Finds left (draft.part? 1 "plugins") listed
    at finds
  unfold Lists
  cases found : draft.part? 1 "plugins" with
  | none =>
      rw [found] at finds
      exact (Option.some.inj finds).symm
  | some part =>
      rw [found] at finds
      exact ⟨left, Codec.list_any_decode_iff.mp finds⟩

theorem Lists.ordered {draft : Draft} {plugins : List Json} (lists : Lists draft plugins)
    : ∀ plugin ∈ plugins, plugin.Ordered := by
  unfold Lists at lists
  split at lists
  next =>
    obtain ⟨room, kept⟩ := lists
    cases Json.keep_ordered kept with
    | array each => exact each
  next =>
    subst lists
    simp

/-- An ordered value lists the items of its part for the entries. -/
theorem Lists.eq_of_ordered {json : Json} {plugins entries : List Json} (ordered : json.Ordered)
    (found : json.part? 1 "plugins" = some (.array plugins)) (lists : Lists (.ofJson json) entries)
    : entries = plugins := by
  rw [Lists, Draft.part?_ofJson, found] at lists
  obtain ⟨room, kept⟩ := lists
  exact Json.array.inj ((ordered.part? found).keep_ofJson kept)

/-- A document is accepted with what it says of discovery and the settings of its entries. -/
theorem ofShape_eq_ok_iff {enabled : Bool} {plugins : List Json} {settings : DiscoverySettings}
    (ordered : ∀ plugin ∈ plugins, plugin.Ordered)
    : ofShape (enabled, plugins) = .ok settings
      ↔ settings.enabled = enabled ∧ List.Forall₂ Sound plugins settings.plugins := by
  obtain ⟨switched, given⟩ := settings
  simp only [ofShape, Json.bind_eq_ok_iff, checkEntries_eq_ok_iff ordered]
  constructor
  · rintro ⟨checked, all, same⟩
    obtain ⟨rfl, rfl⟩ := DiscoverySettings.mk.inj (Except.ok.inj same)
    exact ⟨rfl, all⟩
  · rintro ⟨rfl, all⟩
    exact ⟨given, all, rfl⟩

/-- A document is refused for what is wrong with the first of its entries that is not valid. -/
theorem ofShape_eq_error_iff {enabled : Bool} {plugins : List Json} {error : SettingsError}
    (ordered : ∀ plugin ∈ plugins, plugin.Ordered)
    : ofShape (enabled, plugins) = .error error
      ↔ ∃ front plugin rest,
          plugins = front ++ plugin :: rest
          ∧ (∀ earlier ∈ front, Valid earlier)
          ∧ ¬ Valid plugin
          ∧ Fails front.length plugin error := by
  have refused
      : ofShape (enabled, plugins) = .error error ↔ checkEntries 0 plugins = .error error := by
    rw [ofShape, Json.bind_eq_error_iff]
    refine or_iff_left ?_
    rintro ⟨_, _, never⟩
    cases never
  rw [refused, checkEntries_eq_error_iff ordered]
  simp only [Nat.zero_add]
  constructor
  · rintro ⟨front, plugin, rest, parted, valid, fails⟩
    exact ⟨front, plugin, rest, parted, valid, fails.not_valid, fails⟩
  · rintro ⟨front, plugin, rest, parted, valid, -, fails⟩
    exact ⟨front, plugin, rest, parted, valid, fails⟩

/-- A document is accepted if all of its entries are valid, and no other is. -/
theorem exists_ofShape_iff {enabled : Bool} {plugins : List Json}
    (ordered : ∀ plugin ∈ plugins, plugin.Ordered)
    : (∃ settings, ofShape (enabled, plugins) = .ok settings)
      ↔ ∀ plugin ∈ plugins, Valid plugin := by
  constructor
  · rintro ⟨settings, accepted⟩
    exact valid_of_sound ((ofShape_eq_ok_iff ordered).mp accepted).2
  · intro valid
    cases checked : ofShape (enabled, plugins) with
    | ok settings => exact ⟨settings, rfl⟩
    | error error =>
        obtain ⟨front, plugin, rest, rfl, -, invalid, -⟩ :=
          (ofShape_eq_error_iff ordered).mp checked
        exact absurd (valid plugin (by simp)) invalid

/-- An ordered value stands for settings only if all items of its part for the entries are valid. -/
theorem valid_of_ofJson {json : Json} {plugins : List Json} {settings : DiscoverySettings}
    (ordered : json.Ordered) (found : json.part? 1 "plugins" = some (.array plugins))
    (accepted : ofJson json = .ok settings)
    : ∀ plugin ∈ plugins, Valid plugin := by
  unfold ofJson at accepted
  split at accepted
  next => cases accepted
  next document read =>
    obtain ⟨enabled, entries⟩ := document
    have lists : Lists (.ofJson json) entries := lists_of_shape read
    obtain rfl := lists.eq_of_ordered ordered found
    exact (exists_ofShape_iff lists.ordered).mp ⟨settings, accepted⟩

end DiscoverySettings

-----------------------------------------------------------------------------------------
-- Configurations
-----------------------------------------------------------------------------------------

namespace Config

/-- The value is a discovery section of the file, read whatever its shape. -/
def Discovers (bytes : ByteArray) (value : Json) : Prop :=
  ∃ part room,
    (Draft.read (Json.tokens bytes)).1.HasPart 5 "discovery" part
    ∧ Json.keep room part = .ok value

theorem discovery_of_decode {address : SocketAddress} {config : Config} {depth room : Nat}
    {draft part : Draft} {value : Json}
    (read : (codec address).decode depth draft = .ok config)
    (has : draft.HasPart 5 "discovery" part) (kept : Json.keep room part = .ok value)
    : config.discovery = some value ∨ value = .null := by
  have found : draft.part? 5 "discovery" = some part :=
    Codec.record_decode_part read (by simp [Fields.names, Field.optional]) has
  obtain ⟨left, values, hold, rfl⟩ := Codec.record_decode read
  obtain ⟨_, _, _, _, _, discovery, _⟩ := values
  obtain ⟨-, -, -, -, -, finds, -⟩ := hold
  change (Field.optional "discovery" (Codec.option .any) none).Finds left
    (draft.part? 5 "discovery") discovery at finds
  rw [found] at finds
  exact Codec.option_any_decode finds kept

/-- A configuration that is used has discovery settings, if any. -/
theorem discovery_of_ofFile {named : Option String} {bytes : ByteArray} {config : Config}
    {value : Json} (discovers : Discovers bytes value)
    (used : ofFile named (some bytes) = .ok config)
    : value = .null ∨ ∃ settings, DiscoverySettings.ofJson value = .ok settings := by
  obtain ⟨part, room, has, kept⟩ := discovers
  simp only [ofFile, ofBytes] at used
  split at used
  next => cases used
  next =>
    split at used
    next => cases used
    next read =>
      obtain ⟨_, checked, -⟩ := Json.bind_eq_ok_iff.mp used
      obtain ⟨_, valid, -⟩ := Json.bind_eq_ok_iff.mp checked
      rcases discovery_of_decode (Codec.decode_of_ofBytes read) has kept with found | null
      · rw [discoverySettings, found] at valid
        cases accepted : DiscoverySettings.ofJson value with
        | error error => simp [accepted, Except.map, Except.mapError] at valid
        | ok settings => exact .inr ⟨settings, rfl⟩
      · exact .inl null

/-- A file is refused for one invalid entry of a discovery section of it. -/
theorem ofFile_refuses {named : Option String} {bytes : ByteArray} {value plugin : Json}
    {plugins : List Json} (discovers : Discovers bytes value)
    (found : value.part? 1 "plugins" = some (.array plugins)) (among : plugin ∈ plugins)
    (invalid : ¬ DiscoverySettings.Valid plugin) (config : Config)
    : ofFile named (some bytes) ≠ .ok config := by
  intro used
  rcases discovery_of_ofFile discovers used with rfl | ⟨settings, accepted⟩
  · cases found
  · obtain ⟨_, _, -, kept⟩ := discovers
    exact invalid
      (DiscoverySettings.valid_of_ofJson (Json.keep_ordered kept) found accepted plugin among)

end Config

/-- Settings are validated as a whole. A document whose top level can be read lists its entries. It
is accepted if and only if all of them are valid, and then with the settings of each in their order;
and it is refused for what is wrong with the first entry that is not valid. A file with such an
entry in the section on discovery is no configuration.
-/
theorem DiscoverySettings.ofText_whole {document : String} {enabled : Bool} {plugins : List Json}
    (read : shape.ofBytes document.toUTF8 = .ok (enabled, plugins))
    : Lists (Draft.read (Json.tokens document.toUTF8)).1 plugins
      ∧ ((∃ settings, ofText document = .ok settings) ↔ ∀ plugin ∈ plugins, Valid plugin)
      ∧ (∀ settings,
          ofText document = .ok settings
          ↔ settings.enabled = enabled ∧ List.Forall₂ Sound plugins settings.plugins)
      ∧ (∀ error,
          ofText document = .error error
          ↔ ∃ front plugin rest,
              plugins = front ++ plugin :: rest
              ∧ (∀ earlier ∈ front, Valid earlier)
              ∧ ¬ Valid plugin
              ∧ Fails front.length plugin error)
      ∧ ∀ named bytes value listed plugin,
          Config.Discovers bytes value
          → value.part? 1 "plugins" = some (.array listed)
          → plugin ∈ listed
          → ¬ Valid plugin
          → ∀ config, Config.ofFile named (some bytes) ≠ .ok config := by
  have lists := lists_of_shape (Codec.decode_of_ofBytes read)
  simp only [ofText, read]
  exact ⟨
    lists,
    exists_ofShape_iff lists.ordered,
    fun _ => ofShape_eq_ok_iff lists.ordered,
    fun _ => ofShape_eq_error_iff lists.ordered,
    fun _ _ _ _ _ => Config.ofFile_refuses
  ⟩

namespace DiscoverySettings

/-- An entry that asks for a scan of a collector every so many minutes. -/
def every (minutes : Nat) (collector : CollectorName) : Json :=
  .object [("autoInterval", .ofNat minutes), ("enabled", .bool true), ("type", .string collector)]

/-- Settings with the entries. -/
def listing (plugins : List Json) : Json :=
  .object [("enabled", .bool true), ("plugins", .array plugins)]

private theorem whole_every {minutes : Nat} (fits : Json.Fits minutes) (collector : CollectorName)
    : (every minutes collector).Whole := by
  refine .object ?_
  simp only [List.forall_mem_cons, List.not_mem_nil]
  exact ⟨.number fits, .bool, .string, fun _ => False.elim⟩

private theorem whole_listing {plugins : List Json} (each : ∀ plugin ∈ plugins, plugin.Whole)
    : (listing plugins).Whole := by
  refine .object ?_
  simp only [List.forall_mem_cons, List.not_mem_nil]
  exact ⟨.bool, .array each, fun _ => False.elim⟩

/-- A document that can be read is refused for its second entry, which asks for a scan every 59
minutes, and a file is refused whose section has an entry that is null.
-/
theorem ofText_untimely
    : shape.ofBytes (listing [every 60 "lldp", every 59 "nmap"]).render.toUTF8
        = .ok (true, [every 60 "lldp", every 59 "nmap"])
      ∧ ofText (listing [every 60 "lldp", every 59 "nmap"]).render
        = .error (.intervalOutOfRange 1 "nmap" 59)
      ∧ ∀ config,
          Config.ofFile none (some (Json.object [("discovery", listing [.null])]).toBytes)
          ≠ .ok config := by
  have whole : (listing [every 60 "lldp", every 59 "nmap"]).Whole := by
    refine whole_listing ?_
    simp only [List.forall_mem_cons, List.not_mem_nil]
    exact ⟨whole_every ⟨by decide, by decide⟩ _, whole_every ⟨by decide, by decide⟩ _,
      fun _ => False.elim⟩
  have read
      : shape.ofBytes (listing [every 60 "lldp", every 59 "nmap"]).render.toUTF8
        = .ok (true, [every 60 "lldp", every 59 "nmap"]) :=
    (shape.ofBytes_toBytes whole).trans rfl
  obtain ⟨-, -, -, refuses, rejects⟩ := ofText_whole read
  refine ⟨read, ?_, ?_⟩
  · have sound : Sound (every 60 "lldp") ⟨"lldp", true, 60⟩ :=
      ⟨⟨rfl, rfl, rfl⟩, by decide, by decide, by decide⟩
    have fails : Fails 1 (every 59 "nmap") (.intervalOutOfRange 1 "nmap" 59) :=
      @Fails.intervalOutOfRange 1 _ ⟨"nmap", true, 59⟩ ⟨"nmap", by decide, rfl⟩ ⟨rfl, rfl, rfl⟩
        (.inl (by decide))
    refine (refuses _).mpr
      ⟨[every 60 "lldp"], every 59 "nmap", [], rfl, ?_, fails.not_valid, fails⟩
    exact List.forall_mem_singleton.mpr ⟨_, sound⟩
  · refine rejects none _ (listing [.null]) [.null] .null ?_ rfl (by simp) ?_
    · have whole : (Json.object [("discovery", listing [.null])]).Whole := by
        refine .object (List.forall_mem_singleton.mpr ?_)
        exact whole_listing (List.forall_mem_singleton.mpr .null)
      refine ⟨.ofJson (listing [.null]), 126, ?_, rfl⟩
      rw [Draft.read_toBytes whole]
      exact List.mem_singleton_self _
    · rintro ⟨settings, sound⟩
      cases sound.collector

end DiscoverySettings

end NetInventory
