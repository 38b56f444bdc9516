import NetInventory.Proofs.Store.Announcement
import NetInventory.Proofs.Store.Displacement

/-! Devices with hardware addresses do not influence each other. As long as every record that comes
in has a hardware address, a store is one fold for each of these addresses: what it holds of a
device is what the device's own records come to, whatever addresses the devices share.
-/

namespace NetInventory

/-- A record that was accepted, and what the clock read then. -/
structure Receipt where
  now : Int64
  record : DeviceRecord
deriving DecidableEq

namespace Receipt

/-- The records that are accepted of some, each of which takes a reading of the clock. -/
def ofRecords : Clock → List DeviceRecord → List Receipt
  | _, [] => []
  | clock, raw :: rest =>
      match Store.accept raw with
      | .error _ => ofRecords clock rest
      | .ok record => ⟨clock.read.1, record⟩ :: ofRecords clock.read.2 rest

/-- What the records of a device come to: the first one with the others merged into it in their
order, stamped with the last reading of the clock.
-/
def collapse : List Receipt → Option DeviceRecord
  | [] => none
  | first :: later =>
      some
        { (later.map (·.record)).foldl DeviceRecord.merge first.record with
          lastUpdate := (later.getLastD first).now }

/-- What is known of a device after one more record. -/
def absorb (known : Option DeviceRecord) (receipt : Receipt) : Option DeviceRecord :=
  some
    { (match known with
        | none => receipt.record
        | some existing => existing.merge receipt.record) with
      lastUpdate := receipt.now }

/-- Stamping after every record is stamping once in the end, by induction on the records. -/
theorem foldl_absorb_some (existing : DeviceRecord) (first : Receipt) (later : List Receipt)
    : later.foldl absorb (some { existing with lastUpdate := first.now })
      = some
        { (later.map (·.record)).foldl DeviceRecord.merge existing with
          lastUpdate := (later.getLastD first).now } := by
  induction later generalizing existing first with
  | nil => rfl
  | cons next rest ih =>
      rw [List.foldl_cons, List.map_cons, List.foldl_cons, List.getLastD_cons]
      exact ih (existing.merge next.record) next

theorem foldl_absorb (receipts : List Receipt)
    : receipts.foldl absorb none = collapse receipts := by
  cases receipts with
  | nil => rfl
  | cons first later => exact foldl_absorb_some first.record first later

theorem collapse_eq_none_iff {receipts : List Receipt}
    : collapse receipts = none ↔ receipts = [] := by
  cases receipts <;> simp [collapse]

/-- The readings of the clock leave no trace but the time. -/
theorem collapse_congr {left right : List Receipt}
    (same : left.map (·.record) = right.map (·.record))
    : ((collapse left).map fun record => { record with lastUpdate := 0 })
      = (collapse right).map fun record => { record with lastUpdate := 0 } := by
  cases left with
  | nil =>
      obtain rfl := List.map_eq_nil_iff.mp same.symm
      rfl
  | cons first later =>
      cases right with
      | nil => simp at same
      | cons other rest =>
          obtain ⟨head, tail⟩ := List.cons.inj same
          simp only [collapse, head, tail, Option.map_some]

theorem mem_ofRecords {clock : Clock} {records : List DeviceRecord} {record : DeviceRecord}
    : (∃ receipt ∈ ofRecords clock records, receipt.record = record)
      ↔ ∃ raw ∈ records, Store.accept raw = .ok record := by
  induction records generalizing clock with
  | nil => simp [ofRecords]
  | cons raw rest ih =>
      cases accepted : Store.accept raw with
      | error error => simp [ofRecords, accepted, ih]
      | ok found => simp [ofRecords, accepted, ih]

end Receipt

namespace Store

section
variable {inventory next : Inventory} {record merged : DeviceRecord} {now : Int64}
  {usage : Tracker} {created : Bool} {mac : String}

/-- Every device has a hardware address and stands under it. -/
def Identified : Inventory → Prop :=
  Inventory.All fun key record => key ≠ "" ∧ record.macAddress = key

/-- Among devices that all have hardware addresses, a record with one resolves to its own device or
to none: no device gives way to the hardware address of another.
-/
theorem resolve_of_identified (identified : Identified inventory) (ips : List String)
    (named : mac ≠ "")
    : inventory.resolve mac ips = (inventory.devices.get? mac).map fun _ => mac := by
  cases found : inventory.devices.get? mac with
  | some stored => exact Inventory.resolve_of_known ips named found
  | none =>
      refine Option.eq_none_iff_forall_ne_some.mpr fun key resolved => ?_
      obtain ⟨stored, present, ⟨-, rfl⟩ | ⟨-, unnamed | unnamed⟩⟩ :=
        Inventory.resolve_eq_some resolved
      · simp [found] at present
      · exact named unnamed
      · obtain ⟨nonempty, own⟩ := identified _ _ present
        exact nonempty (own.symm.trans unnamed)

/-- A record with a hardware address comes into its own device, and the others stay. -/
theorem Brought.identified (brought : Brought inventory record now usage merged created next)
    (identified : Identified inventory) (named : record.macAddress ≠ "")
    : Identified next
      ∧ ∀ mac,
        (next.devices.get? mac).map (·.record)
          = if mac = record.macAddress then
              Receipt.absorb ((inventory.devices.get? mac).map (·.record)) ⟨now, record⟩
            else
              (inventory.devices.get? mac).map (·.record) := by
  have mac := brought.mac_of_named named
  obtain ⟨key, later, keyed, present, same, -⟩ := brought.get?_key
  obtain rfl := Option.some.inj ((brought.key_of_named named).symm.trans keyed)
  have others {other : String} (apart : other ≠ record.macAddress)
      : next.devices.get? other = inventory.devices.get? other := by
    refine brought.get?_elsewhere (fun resolved => ?_) (fun own => ?_)
    · rw [resolve_of_identified identified _ named] at resolved
      obtain ⟨_, -, rfl⟩ := Option.map_eq_some_iff.mp resolved
      exact apart rfl
    · exact apart (Option.some.inj (own.symm.trans keyed))
  have absorbed : some merged
      = Receipt.absorb ((inventory.devices.get? record.macAddress).map (·.record))
          ⟨now, record⟩ := by
    have resolution := resolve_of_identified identified record.ips named
    cases brought with
    | added resolved stamped _ =>
        rw [resolved] at resolution
        rw [Option.map_eq_none_iff.mp resolution.symm, stamped]
        rfl
    | @moved _ old stored _ resolved taken stamped _ =>
        have there := (Inventory.take_eq_some taken).1
        rw [resolved] at resolution
        obtain ⟨_, -, rfl⟩ := Option.map_eq_some_iff.mp resolution.symm
        rw [there, stamped]
        rfl
  constructor
  · intro other stored found
    by_cases own : other = record.macAddress
    · subst own
      obtain rfl := Option.some.inj (present.symm.trans found)
      exact ⟨named, same ▸ mac⟩
    · exact identified _ _ (others own ▸ found)
  · intro other
    by_cases own : other = record.macAddress
    · rw [if_pos own, own, present, ← absorbed, Option.map_some, same]
    · rw [if_neg own, others own]

end

-----------------------------------------------------------------------------------------
-- Merges one after the other
-----------------------------------------------------------------------------------------

/-- The call merges a record that has a hardware address, and not the one of unknown devices. -/
def Call.MergesNamed (call : Call) : Prop :=
  ∃ instant raw mac,
    call = .merge instant raw
    ∧ Mac.normalize raw.macAddress = .ok mac
    ∧ mac ≠ ""
    ∧ Mac.isZero mac = false

theorem Call.MergesNamed.exists_accept {call : Call} (named : call.MergesNamed)
    : ∃ instant raw record,
        call = .merge instant raw ∧ accept raw = .ok record ∧ record.macAddress ≠ "" := by
  obtain ⟨instant, raw, mac, rfl, normal, given, nonzero⟩ := named
  have nonempty : ({ raw with macAddress := mac } : DeviceRecord).isEmpty = false :=
    Bool.eq_false_iff.mpr fun empty => given (DeviceRecord.isEmpty_iff.mp empty).1
  exact ⟨instant, raw, _, rfl, accept_of_normalize normal nonzero nonempty, given⟩

/-- What steps took in of one device, with the readings of the clock that all of their records took.
-/
def receiptsOf (mac : String) (clock : Clock) (steps : List Step) : List Receipt :=
  (Receipt.ofRecords clock (steps.flatMap fun step => step.call.records)).filter fun receipt =>
    receipt.record.macAddress = mac

theorem receiptsOf_eq_nil_iff {mac : String} {clock : Clock} {steps : List Step}
    : receiptsOf mac clock steps = [] ↔ ¬ ∃ step ∈ steps, step.TakesIn mac := by
  simp only [receiptsOf, List.filter_eq_nil_iff, decide_eq_true_eq]
  constructor
  · rintro none ⟨step, member, raw, among, record, accepted, rfl⟩
    have given : raw ∈ steps.flatMap fun step => step.call.records :=
      List.mem_flatMap.mpr ⟨step, member, among⟩
    obtain ⟨receipt, taken, rfl⟩ := Receipt.mem_ofRecords.mpr ⟨raw, given, accepted⟩
    exact none receipt taken rfl
  · rintro none receipt taken rfl
    obtain ⟨raw, among, accepted⟩ := Receipt.mem_ofRecords.mp ⟨receipt, taken, rfl⟩
    obtain ⟨step, member, given⟩ := List.mem_flatMap.mp among
    exact none ⟨step, member, raw, given, receipt.record, accepted, rfl⟩

variable {store last : Store} {steps : List Step}

/-- A merge of a record with a hardware address creates and announces its device if there is none
yet, and takes one reading of the clock.
-/
theorem step_of_mergesNamed {call : Call} (identified : Identified store.inventory)
    (named : call.MergesNamed)
    : ∃ raw record outcome,
        call.records = [raw]
        ∧ accept raw = .ok record
        ∧ (store.step call).answer.outcome? = some outcome
        ∧ outcome.created = (store.inventory.devices.get? record.macAddress).isNone
        ∧ outcome.alert.isSome = outcome.created
        ∧ (store.step call).after.clock = store.clock.read.2
        ∧ Identified (store.step call).after.inventory
        ∧ ∀ mac,
          ((store.step call).after.inventory.devices.get? mac).map (·.record)
            = if mac = record.macAddress then
                Receipt.absorb ((store.inventory.devices.get? mac).map (·.record))
                  ⟨store.clock.read.1, record⟩
              else
                (store.inventory.devices.get? mac).map (·.record) := by
  obtain ⟨instant, raw, record, rfl, accepted, given⟩ := named.exists_accept
  obtain ⟨merged, created, next, brought, result⟩ :=
    mergeWith_of_accepted (fun _ _ => ()) true instant store () accepted
  obtain ⟨stays, records⟩ := brought.identified identified given
  have new : created = (store.inventory.devices.get? record.macAddress).isNone := by
    rw [brought.created_eq, resolve_of_identified identified record.ips given]
    cases store.inventory.devices.get? record.macAddress <;> rfl
  have announced
      : (Alert.due? record
          (store.inventory.resolve record.macAddress record.ips).isSome).isSome = created := by
    rw [due?_of_accept accepted, brought.created_eq]
    cases store.inventory.resolve record.macAddress record.ips <;> rfl
  rw [step, perform_merge, result]
  exact ⟨raw, record, _, rfl, accepted, rfl, new, announced, rfl, stays, records⟩

/-- What is known of a device in the end is what its own records came to on the way, by induction on
the steps.
-/
theorem Run.foldl_receiptsOf (run : Run store steps last)
    (named : ∀ step ∈ steps, step.call.MergesNamed) (identified : Identified store.inventory)
    : Identified last.inventory
      ∧ ∀ mac,
        (last.inventory.devices.get? mac).map (·.record)
          = (receiptsOf mac store.clock steps).foldl Receipt.absorb
              ((store.inventory.devices.get? mac).map (·.record)) := by
  induction run with
  | done => exact ⟨identified, fun _ => rfl⟩
  | @step store call rest last _ ih =>
      have first : call.MergesNamed := named (store.step call) List.mem_cons_self
      obtain ⟨raw, record, _, records, accepted, -, -, -, clock, stays, after⟩ :=
        step_of_mergesNamed identified first
      obtain ⟨identifiedLast, known⟩ :=
        ih (fun step member => named step (List.mem_cons_of_mem _ member)) stays
      refine ⟨identifiedLast, fun mac => ?_⟩
      have receipts : receiptsOf mac store.clock (store.step call :: rest)
          = (if record.macAddress = mac then [⟨store.clock.read.1, record⟩] else [])
            ++ receiptsOf mac store.clock.read.2 rest := by
        have own : (store.step call).call.records = [raw] := records
        simp only [receiptsOf, List.flatMap_cons, own, List.singleton_append,
          Receipt.ofRecords, accepted, List.filter_cons, decide_eq_true_eq]
        split <;> rfl
      rw [known, clock, after, receipts, List.foldl_append]
      by_cases own : mac = record.macAddress
      · rw [if_pos own, if_pos own.symm]
        rfl
      · rw [if_neg own, if_neg (Ne.symm own)]
        rfl

theorem identified_empty : Identified Inventory.empty :=
  all_empty _

theorem Run.records_eq_collapse {clock : Clock} {binInterval reach : Int}
    (run : Run (.empty clock binInterval reach) steps last)
    (named : ∀ step ∈ steps, step.call.MergesNamed) (mac : String)
    : (last.inventory.devices.get? mac).map (·.record)
      = Receipt.collapse (receiptsOf mac clock steps) := by
  have known := (run.foldl_receiptsOf named identified_empty).2 mac
  rw [known]
  exact Receipt.foldl_absorb _

theorem Run.exists_device_iff {clock : Clock} {binInterval reach : Int}
    (run : Run (.empty clock binInterval reach) steps last)
    (named : ∀ step ∈ steps, step.call.MergesNamed) (mac : String)
    : (∃ stored, last.inventory.devices.get? mac = some stored)
      ↔ ∃ step ∈ steps, step.TakesIn mac := by
  have known := run.records_eq_collapse named mac
  have none : receiptsOf mac clock steps = [] ↔ ¬ ∃ step ∈ steps, step.TakesIn mac :=
    receiptsOf_eq_nil_iff
  rw [← not_iff_not, ← none, ← Receipt.collapse_eq_none_iff, ← known, Option.map_eq_none_iff,
    Option.eq_none_iff_forall_ne_some, not_exists]

/-- As long as all records that are merged into a store that was empty have hardware addresses, the
store holds one device for each of these addresses. What it holds of a device is what the device's
own records come to in their order, stamped with the reading of the clock at the last one, and
exactly the first of them creates the device and announces it. So two stores hold the same of a
device but for the time if the device's own records were the same.
-/
theorem Run.devices_independent {clock : Clock} {binInterval reach : Int}
    (run : Run (.empty clock binInterval reach) steps last)
    (named : ∀ step ∈ steps, step.call.MergesNamed)
    : (∀ mac stored,
        last.inventory.devices.get? mac = some stored → stored.record.macAddress = mac)
      ∧ (∀ mac,
        (∃ stored, last.inventory.devices.get? mac = some stored)
          ↔ ∃ step ∈ steps, step.TakesIn mac)
      ∧ (∀ mac,
        (last.inventory.devices.get? mac).map (·.record)
          = Receipt.collapse (receiptsOf mac clock steps))
      ∧ (∀ earlier step later mac,
        steps = earlier ++ step :: later
        → step.TakesIn mac
        → ∃ outcome,
          step.answer.outcome? = some outcome
          ∧ (outcome.created = true ↔ ¬ ∃ before ∈ earlier, before.TakesIn mac)
          ∧ (outcome.alert.isSome = true ↔ ¬ ∃ before ∈ earlier, before.TakesIn mac))
      ∧ ∀ otherClock otherInterval otherReach others otherLast,
        Run (.empty otherClock otherInterval otherReach) others otherLast
        → (∀ step ∈ others, step.call.MergesNamed)
        → ∀ mac,
          (receiptsOf mac otherClock others).map (·.record)
            = (receiptsOf mac clock steps).map (·.record)
          → ((otherLast.inventory.devices.get? mac).map fun stored =>
              { stored.record with lastUpdate := 0 })
            = (last.inventory.devices.get? mac).map fun stored =>
              { stored.record with lastUpdate := 0 } := by
  obtain ⟨identified, -⟩ := run.foldl_receiptsOf named identified_empty
  refine ⟨fun mac stored found => (identified _ _ found).2, run.exists_device_iff named,
    run.records_eq_collapse named, ?first, ?others⟩
  case first =>
    rintro earlier step later mac rfl takesIn
    obtain ⟨middle, before, rest⟩ := run.split
    have namedBefore := fun step member => named step (List.mem_append_left _ member)
    cases rest with
    | @step _ call _ _ _ =>
        obtain ⟨identified, -⟩ := before.foldl_receiptsOf namedBefore identified_empty
        have merges : call.MergesNamed :=
          named (middle.step call) (List.mem_append_right _ List.mem_cons_self)
        obtain ⟨raw, record, outcome, records, accepted, answered, created, announced, -⟩ :=
          step_of_mergesNamed identified merges
        obtain ⟨given, among, found, taken, rfl⟩ := takesIn
        obtain rfl : given = raw := List.mem_singleton.mp (records ▸ among)
        obtain rfl := Except.ok.inj (accepted.symm.trans taken)
        have new : outcome.created = true ↔ ¬ ∃ step ∈ earlier, step.TakesIn record.macAddress := by
          rw [created, ← before.exists_device_iff namedBefore, Option.isNone_iff_eq_none,
            Option.eq_none_iff_forall_ne_some, not_exists]
        exact ⟨outcome, answered, new, by rw [announced, new]⟩
  case others =>
    intro otherClock otherInterval otherReach others otherLast otherRun otherNamed mac same
    have untimed := Receipt.collapse_congr same
    rwa [← otherRun.records_eq_collapse otherNamed, ← run.records_eq_collapse named,
      Option.map_map, Option.map_map] at untimed

/-- Between two records of a device another one takes over its address. The store holds the same of
the first device, but for the time, as if the other one had never come in.
-/
theorem Run.devices_independent_shared
    : let sighted (mac : String) : DeviceRecord :=
        { DeviceRecord.withMac mac with arp := .singleton "10.0.0.5" default }
      let clock : Clock := ⟨fun taken => .ofNat taken, 0⟩
      let first := (empty clock 0 0).step (.merge 0 (sighted "aa:bb:cc:dd:ee:01"))
      let other := first.after.step (.merge 0 (sighted "aa:bb:cc:dd:ee:02"))
      let again := other.after.step (.merge 0 (.withMac "AA:BB:CC:DD:EE:01"))
      let alone := first.after.step (.merge 0 (.withMac "AA:BB:CC:DD:EE:01"))
      (∃ outcome, other.answer.outcome? = some outcome ∧ outcome.created = true)
      ∧ ((alone.after.inventory.devices.get? "aa:bb:cc:dd:ee:01").map fun stored =>
          { stored.record with lastUpdate := 0 })
        = (again.after.inventory.devices.get? "aa:bb:cc:dd:ee:01").map fun stored =>
          { stored.record with lastUpdate := 0 } := by
  intro sighted clock first other again alone
  have run : Run (empty clock 0 0) [first, other, again] again.after := .step (.step (.step .done))
  have runAlone : Run (empty clock 0 0) [first, alone] alone.after := .step (.step .done)
  have merges : (Call.merge 0 (sighted "aa:bb:cc:dd:ee:01")).MergesNamed :=
    ⟨0, _, "aa:bb:cc:dd:ee:01", rfl, by decide +kernel, by decide, by decide⟩
  have mergesOther : (Call.merge 0 (sighted "aa:bb:cc:dd:ee:02")).MergesNamed :=
    ⟨0, _, "aa:bb:cc:dd:ee:02", rfl, by decide +kernel, by decide, by decide⟩
  have mergesAgain : (Call.merge 0 (.withMac "AA:BB:CC:DD:EE:01")).MergesNamed :=
    ⟨0, _, "aa:bb:cc:dd:ee:01", rfl, by decide +kernel, by decide, by decide⟩
  have named : ∀ step ∈ [first, other, again], step.call.MergesNamed := by
    simp only [List.mem_cons, List.not_mem_nil, or_false]
    rintro step (rfl | rfl | rfl)
    exacts [merges, mergesOther, mergesAgain]
  have namedAlone : ∀ step ∈ [first, alone], step.call.MergesNamed := by
    simp only [List.mem_cons, List.not_mem_nil, or_false]
    rintro step (rfl | rfl)
    exacts [merges, mergesAgain]
  have same
      : (receiptsOf "aa:bb:cc:dd:ee:01" clock [first, alone]).map (·.record)
        = (receiptsOf "aa:bb:cc:dd:ee:01" clock [first, other, again]).map (·.record) := by
    decide +kernel
  obtain ⟨-, -, -, firsts, others⟩ := run.devices_independent named
  refine ⟨?created, others _ _ _ _ _ runAlone namedAlone _ same⟩
  have accepted : accept (sighted "aa:bb:cc:dd:ee:02") = .ok (sighted "aa:bb:cc:dd:ee:02") :=
    accept_of_normal (by decide +kernel) (by decide) (by decide +kernel)
  have takesIn : other.TakesIn "aa:bb:cc:dd:ee:02" :=
    ⟨_, List.mem_cons_self, _, accepted, rfl⟩
  obtain ⟨outcome, answered, created, -⟩ := firsts [first] other [again] _ rfl takesIn
  refine ⟨outcome, answered, created.mpr ?_⟩
  have unknown : receiptsOf "aa:bb:cc:dd:ee:02" clock [first] = [] := by decide +kernel
  exact receiptsOf_eq_nil_iff.mp unknown

end Store

end NetInventory
