import NetInventory.Proofs.Store.AddressIndex
import NetInventory.Proofs.Store.Displacement

/-! A record is taken in as a whole or not at all. It is refused for what its addresses are alone,
and then nothing has happened, not even a reading of the clock. Any other record is stored, whatever
the store holds, and is found at each of its addresses.
-/

namespace NetInventory

/-- Whether a record is refused for a reason: its hardware address is none, or is the one that
stands for an unknown one, or it has no address of any sort.
-/
def DeviceRecord.Refused (raw : DeviceRecord) : RecordError → Prop
  | .invalidMac mac =>
      mac = Text.trim raw.macAddress ∧ mac ≠ "" ∧ Mac.isAddress mac = false
  | .zeroMac => Text.trim raw.macAddress = Mac.zero
  | .unkeyable => Text.trim raw.macAddress = "" ∧ raw.ips = []
  | .missingIp _ => False

namespace Store

-----------------------------------------------------------------------------------------
-- Refusal
-----------------------------------------------------------------------------------------

variable {raw record : DeviceRecord} {error : RecordError}

theorem refused_of_accept (refusal : accept raw = .error error) : raw.Refused error := by
  unfold accept at refusal
  split at refusal
  next mac misread =>
    obtain rfl := Except.error.inj refusal
    exact Mac.normalize_eq_error_iff.mp misread
  next mac normal =>
    split at refusal
    next unknown =>
      obtain rfl := Except.error.inj refusal
      obtain rfl : mac = Mac.zero := of_decide_eq_true unknown
      exact Mac.normalize_eq_zero_iff.mp normal
    next =>
      dsimp only at refusal
      split at refusal
      next empty =>
        obtain rfl := Except.error.inj refusal
        obtain ⟨rfl, nowhere⟩ := DeviceRecord.isEmpty_iff.mp empty
        exact ⟨Mac.normalize_eq_empty_iff.mp normal, nowhere⟩
      next => simp at refusal

theorem accept_of_refused (refused : raw.Refused error) : accept raw = .error error := by
  unfold accept
  cases error with
  | invalidMac mac => rw [Mac.normalize_eq_error_iff.mpr refused]
  | missingIp kind => exact refused.elim
  | unkeyable =>
      obtain ⟨unnamed, nowhere⟩ := refused
      have empty : ({ raw with macAddress := "" } : DeviceRecord).isEmpty = true :=
        DeviceRecord.isEmpty_iff.mpr ⟨rfl, nowhere⟩
      rw [Mac.normalize_eq_empty_iff.mpr unnamed]
      exact if_pos empty
  | zeroMac => rw [Mac.normalize_eq_zero_iff.mpr refused]; rfl

theorem accept_eq_error_iff : accept raw = .error error ↔ raw.Refused error :=
  ⟨refused_of_accept, accept_of_refused⟩

/-- A record that nothing speaks against is accepted. -/
theorem exists_accept (admissible : ∀ error, ¬ raw.Refused error)
    : ∃ record, accept raw = .ok record := by
  cases accepted : accept raw with
  | error error => exact absurd (refused_of_accept accepted) (admissible error)
  | ok record => exact ⟨record, rfl⟩

-----------------------------------------------------------------------------------------
-- Finding what was stored
-----------------------------------------------------------------------------------------

/-- A stored record is found at every IP address of the record that was taken in, and at its
hardware address, as it is stored and as it was given.
-/
structure Finds (store : Store) (raw stored : DeviceRecord) : Prop where
  byIp : ∀ ip ∈ raw.ips, store.byIp? ip = some stored
  byMac : stored.macAddress ≠ "" → store.byMac? stored.macAddress = some stored
  byGiven : Text.trim raw.macAddress ≠ "" → store.byMac? raw.macAddress = some stored

/-- The hardware address of every device is in normal form. -/
def Normal : Inventory → Prop :=
  Inventory.All fun _ record => Mac.normalize record.macAddress = .ok record.macAddress

/-- Hardware addresses come in in normal form, and merging takes one or the other. -/
theorem kept_normal (admitted : DeviceRecord → Prop) : Kept admitted Normal := by
  refine kept_devices ?added ?moved ?congr
  case added =>
    intro raw record now key accepted _ _
    obtain ⟨mac, normal, rfl, -⟩ := accept_eq_ok accepted
    exact Mac.normalize_self normal
  case moved =>
    intro raw record now key old existing accepted _ normal _
    simp only [DeviceRecord.macAddress_merge]
    split
    next => exact normal
    next =>
      obtain ⟨mac, normal, rfl, -⟩ := accept_eq_ok accepted
      exact Mac.normalize_self normal
  case congr =>
    rintro key left right ⟨mac, -⟩ normal
    rwa [mac]

section
variable {inventory : Inventory} {store : Store} {merged : DeviceRecord} {now : Int64}
  {usage : Tracker} {created : Bool}

/-- What came in is found under its hardware address, however that is written. -/
theorem Brought.byMac?_eq
    (brought : Brought inventory record now usage merged created store.inventory) {text : String}
    (named : merged.macAddress ≠ "") (normal : Mac.normalize text = .ok merged.macAddress)
    : store.byMac? text = some merged := by
  obtain ⟨key, later, keyed, present, same, -⟩ := brought.get?_key
  obtain rfl := Option.some.inj ((DeviceRecord.key?_of_mac named).symm.trans keyed)
  simp [byMac?, normal, named, present, same]

/-- What came in is found at the IP addresses that it came in with: whoever had them before, they
belong to it now.
-/
theorem Brought.byIp?_eq
    (brought : Brought inventory record now usage merged created store.inventory) {ip : String}
    (member : ip ∈ record.ips)
    : store.byIp? ip = some merged := by
  obtain ⟨key, later, keyed, present, same, -⟩ := brought.get?_key
  have owned := (brought.owners_of_mem (brought.mem_ips member)).trans keyed
  exact byIp?_eq_some.mpr ⟨key, later, owned, present, same⟩

theorem Brought.finds
    (brought : Brought inventory record now usage merged created store.inventory)
    (accepted : accept raw = .ok record)
    (normal : Mac.normalize merged.macAddress = .ok merged.macAddress)
    : store.Finds raw merged where
  byIp ip member := brought.byIp?_eq (ips_of_accept accepted ▸ member)
  byMac named := brought.byMac?_eq named normal
  byGiven given := by
    obtain ⟨mac, reads, rfl, -⟩ := accept_eq_ok accepted
    have named : mac ≠ "" := by
      rintro rfl
      exact given (Mac.normalize_eq_empty_iff.mp reads)
    have same : merged.macAddress = mac := brought.mac_of_named named
    exact brought.byMac?_eq (same ▸ named) (same ▸ reads)

end

-----------------------------------------------------------------------------------------
-- All or nothing
-----------------------------------------------------------------------------------------

/-- A merge fails for the reasons that the record gives and for no other: once the record is
accepted, what is stored has a key.
-/
theorem mergeWith_eq_error_iff {σ : Type} (changed : DeviceRecord → σ → σ) (alerting : Bool)
    (instant : Int) (store : Store) (noted : σ)
    : (store.mergeWith changed alerting instant raw noted).1 = .error error
      ↔ raw.Refused error := by
  rw [← accept_eq_error_iff]
  cases accepted : accept raw with
  | error reason =>
      rw [mergeWith_of_refused changed alerting instant store noted accepted]
      simp only [Except.error.injEq]
  | ok record =>
      obtain ⟨_, _, _, _, result⟩ :=
        mergeWith_of_accepted changed alerting instant store noted accepted
      simp [result]

/-- In every store that was empty once, a record is refused exactly for a reason that its addresses
give, and then the store, its clock included, and the notes are as they were. Any other record is
stored, the stored record is noted once, and it is found at its addresses.
-/
theorem Run.mergeWith_whole {clock : Clock} {binInterval reach : Int} {steps : List Step}
    {store : Store} (run : Run (.empty clock binInterval reach) steps store) {σ : Type}
    (changed : DeviceRecord → σ → σ) (alerting : Bool) (instant : Int) (raw : DeviceRecord)
    (noted : σ)
    : (∀ error,
        (store.mergeWith changed alerting instant raw noted).1 = .error error
        ↔ raw.Refused error)
      ∧ (∀ error,
        raw.Refused error
        → store.mergeWith changed alerting instant raw noted = (.error error, store, noted))
      ∧ ((∀ error, ¬ raw.Refused error)
        → ∃ outcome next,
          store.mergeWith changed alerting instant raw noted
            = (.ok outcome, next, changed outcome.record noted)
          ∧ next.Finds raw outcome.record) := by
  refine ⟨fun error => ?reasons, fun error refused => ?untouched, fun admissible => ?stored⟩
  case reasons => exact mergeWith_eq_error_iff changed alerting instant store noted
  case untouched =>
    exact mergeWith_of_refused changed alerting instant store noted (accept_of_refused refused)
  case stored =>
    obtain ⟨record, accepted⟩ := exists_accept admissible
    obtain ⟨merged, created, next, brought, result⟩ :=
      mergeWith_of_accepted changed alerting instant store noted accepted
    have kept := kept_normal fun _ => True
    have before := run.kept kept (fun _ _ _ _ _ _ => trivial) (all_empty _)
    have normal := kept.bring accepted trivial brought before
    obtain ⟨key, later, -, present, same, -⟩ := brought.get?_key
    exact ⟨_, _, result, Brought.finds brought accepted (same ▸ normal key later present)⟩

/-- A record whose hardware address stands in capitals between blanks takes over an address that
belongs to another device. With a part of that hardware address nothing happens.
-/
theorem Run.mergeWith_whole_shared
    : let sighted : DeviceRecord :=
        { DeviceRecord.withMac "00:11:22:33:44:55" with neigh := .singleton "10.0.0.5" default }
      let shared : DeviceRecord := { sighted with macAddress := " 00:11:22:33:44:AA " }
      let store := ((empty (.fixed 1000) 0 0).step (.merge 0 sighted)).after
      let note := fun (record : DeviceRecord) (notes : List DeviceRecord) => notes ++ [record]
      (∃ outcome next,
        store.mergeWith note true 0 shared [] = (.ok outcome, next, [outcome.record])
        ∧ next.byIp? "10.0.0.5" = some outcome.record
        ∧ next.byMac? " 00:11:22:33:44:AA " = some outcome.record)
      ∧ store.mergeWith note true 0 { shared with macAddress := " 00:11 " } []
        = (.error (.invalidMac "00:11"), store, []) := by
  intro sighted shared store note
  have run
      : Run (empty (.fixed 1000) 0 0) [(empty (.fixed 1000) 0 0).step (.merge 0 sighted)] store :=
    .step .done
  have trimmed : Text.trim shared.macAddress = "00:11:22:33:44:AA" := by decide +kernel
  have admissible (error : RecordError) : ¬ shared.Refused error := by
    cases error with
    | invalidMac mac =>
        rintro ⟨rfl, -, misread⟩
        rw [trimmed] at misread
        exact absurd misread (by decide)
    | missingIp kind => exact id
    | unkeyable => exact fun ⟨_, nowhere⟩ => absurd nowhere (by decide +kernel)
    | zeroMac => exact fun unknown => absurd (trimmed.symm.trans unknown) (by decide)
  obtain ⟨-, -, stored⟩ := run.mergeWith_whole note true 0 shared []
  obtain ⟨-, untouched, -⟩ :=
    run.mergeWith_whole note true 0 { shared with macAddress := " 00:11 " } []
  obtain ⟨outcome, next, result, finds⟩ := stored admissible
  refine ⟨⟨outcome, next, result, finds.byIp _ (by decide +kernel), finds.byGiven ?_⟩, ?_⟩
  · rw [trimmed]
    decide
  · exact untouched (.invalidMac "00:11") ⟨by decide +kernel, by decide, by decide⟩

end Store

end NetInventory
