import NetInventory.Proofs.Store.Keys

/-! Announcements of new devices. The hardware address that an announcement names is unknown before
and known afterwards, and an address stays known until its device is pruned. So between two
announcements of one device it was pruned.
-/

namespace NetInventory

/-- An alert is due only for a record that resolved to no device, and it announces that record. -/
theorem Alert.due?_eq_some {record : DeviceRecord} {resolved : Bool} {alert : Alert}
    (due : Alert.due? record resolved = some alert)
    : resolved = false ∧ alert = Alert.newDevice record := by
  simp only [Alert.due?, Option.ite_none_left_eq_some, Bool.or_eq_true, not_or] at due
  exact ⟨Bool.of_not_eq_true due.1.1.2, (Option.some.inj due.2).symm⟩

theorem Alert.mac?_newDevice (record : DeviceRecord)
    : (Alert.newDevice record).mac? = some record.macAddress := by
  simp only [Alert.mac?, Alert.newDevice, SortedMap.get?_insert]
  rfl

/-- A device with the hardware address stands under it. -/
def Inventory.Knows (inventory : Inventory) (mac : String) : Prop :=
  ∃ stored, inventory.devices.get? mac = some stored ∧ stored.record.macAddress = mac

namespace Store

-----------------------------------------------------------------------------------------
-- Known hardware addresses
-----------------------------------------------------------------------------------------

section
variable {inventory next last : Inventory} {raw record merged : DeviceRecord} {now : Int64}
  {usage : Tracker} {created : Bool} {removed : List DeviceRecord} {mac : String}

/-- The device that a record came into is known by its hardware address. -/
theorem Brought.knows (brought : Brought inventory record now usage merged created next)
    (named : mac ≠ "") (same : merged.macAddress = mac)
    : next.Knows mac := by
  subst same
  cases brought with
  | added _ _ own =>
      obtain rfl := Option.some.inj ((DeviceRecord.key?_of_mac named).symm.trans own)
      exact ⟨_, by rw [Inventory.get?_put, if_pos rfl], rfl⟩
  | moved _ _ _ own =>
      obtain rfl := Option.some.inj ((DeviceRecord.key?_of_mac named).symm.trans own)
      exact ⟨_, by rw [Inventory.get?_put, if_pos rfl], rfl⟩

/-- A device that a record resolves to keeps its hardware address, since a record with another one
would not have resolved to it.
-/
theorem mac_merge_of_resolve {stored : StoredDevice} {key : String}
    (resolved : inventory.resolve record.macAddress record.ips = some key)
    (present : inventory.devices.get? key = some stored)
    (own : stored.record.macAddress = key) (named : key ≠ "")
    : (stored.record.merge record).macAddress = key := by
  obtain ⟨target, there, reason⟩ := Inventory.resolve_eq_some resolved
  obtain rfl := Option.some.inj (present.symm.trans there)
  rw [DeviceRecord.macAddress_merge]
  split
  next => exact own
  next incoming =>
    rcases reason with ⟨_, same⟩ | ⟨_, unnamed | unnamed⟩
    · exact same.symm
    · exact absurd unnamed incoming
    · exact absurd (own.symm.trans unnamed) named

/-- A known address stays known when a record comes in. The device that the record resolves to keeps
its hardware address, and whatever enters under another's hardware address has that address.
-/
theorem Brought.knows_of_knows (brought : Brought inventory record now usage merged created next)
    (regular : next.Regular) (named : mac ≠ "") (address : Mac.isAddress mac = true)
    (known : inventory.Knows mac)
    : next.Knows mac := by
  obtain ⟨stored, present, same⟩ := known
  have stays {later : StoredDevice} (found : next.devices.get? mac = some later)
      : next.Knows mac :=
    ⟨later, found, regular.mac_of_key found address⟩
  cases brought with
  | @added key _ _ _ =>
      by_cases own : mac = key
      · exact stays (by rw [Inventory.get?_put, if_pos own])
      · exact stays (by rw [Inventory.get?_put, if_neg own, present])
  | @moved key old _ _ resolved taken stamped keyed =>
      by_cases own : mac = key
      · exact stays (by rw [Inventory.get?_put, if_pos own])
      · by_cases left : mac = old
        · subst left
          obtain rfl := Option.some.inj (present.symm.trans (Inventory.take_eq_some taken).1)
          -- The known device itself moves, but only to the key that it has already.
          have kept : merged.macAddress = mac := by
            rw [stamped]
            exact mac_merge_of_resolve resolved present same named
          have enters := DeviceRecord.key?_of_mac (kept ▸ named)
          rw [keyed, kept] at enters
          exact absurd (Option.some.inj enters).symm own
        · refine ⟨stored, ?_, same⟩
          rw [Inventory.get?_put, if_neg own, Inventory.get?_take taken, if_neg left, present]

/-- A known address is known after changes unless a device with that address left on the way. -/
theorem Changes.knows_or_removed (changes : Changes DeviceRecord.Plain inventory removed last)
    (regular : inventory.Regular) (named : mac ≠ "") (known : inventory.Knows mac)
    : (∃ record ∈ removed, record.macAddress = mac) ∨ last.Knows mac := by
  -- Only an address that reads as one cannot be the key of a device without one.
  have address : Mac.isAddress mac = true := by
    obtain ⟨stored, present, rfl⟩ := known
    exact (regular.plain _ _ present).1.resolve_left named
  induction changes with
  | done => exact .inr known
  | bring accepted fit brought _ ih =>
      have later := kept_regular.bring accepted fit brought regular
      exact ih later (brought.knows_of_knows later named address known)
  | @take inventory key out next _ _ taken _ ih =>
      obtain ⟨stored, present, same⟩ := known
      by_cases left : mac = key
      · subst left
        obtain rfl := Option.some.inj (present.symm.trans (Inventory.take_eq_some taken).1)
        exact .inl ⟨stored.record, List.mem_cons_self, same⟩
      · have stays : next.Knows mac :=
          ⟨stored, by rw [Inventory.get?_take taken, if_neg left, present], same⟩
        rcases ih (kept_regular.take taken regular) stays with ⟨record, member, leaves⟩ | later
        · exact .inl ⟨record, List.mem_cons_of_mem _ member, leaves⟩
        · exact .inr later
  | retouch same _ ih =>
      obtain ⟨stored, present, own⟩ := known
      obtain ⟨later, stays, mac, -⟩ := same.forward present
      exact ih (kept_regular.retouch same regular) ⟨later, stays, mac.trans own⟩

end

-----------------------------------------------------------------------------------------
-- What steps announce, prune and store
-----------------------------------------------------------------------------------------

/-- The hardware address of the alert that an answer carries. -/
def Answer.announced? (answer : Answer) : Option String := do
  let outcome ← answer.outcome?
  let alert ← outcome.alert
  alert.mac?

namespace Step

def Announces (mac : String) (step : Step) : Prop :=
  step.answer.announced? = some mac

def Prunes (mac : String) (step : Step) : Prop :=
  ∃ record ∈ step.answer.removed, record.macAddress = mac

/-- The step takes in a record with the hardware address in normal form. -/
def TakesIn (mac : String) (step : Step) : Prop :=
  ∃ raw ∈ step.call.records, ∃ record, accept raw = .ok record ∧ record.macAddress = mac

def Lists (mac : String) (step : Step) : Prop :=
  ∃ record ∈ step.after.list [], record.macAddress = mac

end Step

variable {store last : Store} {mac : String}

/-- An alert is about the accepted record, which resolved to no device. -/
theorem announced_of_mergeWith {σ : Type} {changed : DeviceRecord → σ → σ} {alerting : Bool}
    {instant : Int} {raw : DeviceRecord} {noted : σ} {outcome : Outcome} {alert : Alert}
    (answered : (store.mergeWith changed alerting instant raw noted).1 = .ok outcome)
    (announced : outcome.alert = some alert)
    : ∃ record,
        accept raw = .ok record
        ∧ store.inventory.resolve record.macAddress record.ips = none
        ∧ alert = .newDevice record := by
  cases accepted : accept raw with
  | error error =>
      rw [mergeWith_of_refused changed alerting instant store noted accepted] at answered
      simp at answered
  | ok record =>
      obtain ⟨merged, created, next, _, result⟩ :=
        mergeWith_of_accepted changed alerting instant store noted accepted
      rw [result] at answered
      obtain rfl := Except.ok.inj answered
      dsimp only at announced
      split at announced
      next =>
        obtain ⟨fresh, rfl⟩ := Alert.due?_eq_some announced
        exact ⟨record, rfl, Option.not_isSome_iff_eq_none.mp (by simp [fresh]), rfl⟩
      next => simp at announced

/-- An announcing step takes in the device it announces, whose address was unknown before. -/
theorem unknown_of_announces {call : Call} (announces : (store.step call).Announces mac)
    (named : mac ≠ "")
    : ¬ store.inventory.Knows mac ∧ (store.step call).TakesIn mac := by
  obtain ⟨outcome, answered, carried⟩ := Option.bind_eq_some_iff.mp announces
  obtain ⟨alert, announced, about⟩ := Option.bind_eq_some_iff.mp carried
  -- Both kinds of merges answer with the outcome of one `mergeWith`.
  have fromMerge {σ : Type} {changed : DeviceRecord → σ → σ} {instant : Int}
      {raw : DeviceRecord} {noted : σ} (among : raw ∈ call.records)
      (merged : (store.mergeWith changed true instant raw noted).1 = .ok outcome)
      : ¬ store.inventory.Knows mac ∧ (store.step call).TakesIn mac := by
    obtain ⟨record, accepted, absent, rfl⟩ := announced_of_mergeWith merged announced
    rw [Alert.mac?_newDevice] at about
    obtain rfl := Option.some.inj about
    refine ⟨fun ⟨stored, present, _⟩ => ?_, raw, among, record, accepted, rfl⟩
    simp [Inventory.get?_of_resolve_eq_none absent named] at present
  have merged {result : Except RecordError Outcome} {notes : List DeviceRecord}
      (answer : (Answer.merged result notes).outcome? = some outcome)
      : result = .ok outcome := by
    cases result with
    | error error => simp [Answer.outcome?] at answer
    | ok found => exact congrArg _ (Option.some.inj answer)
  cases call with
  | merge instant record =>
      rw [step, perform_merge] at answered
      exact fromMerge List.mem_cons_self (merged answered)
  | mergeNoting instant record =>
      rw [step, perform_mergeNoting] at answered
      exact fromMerge List.mem_cons_self (merged answered)
  | warmUp | prune | replaceConnections | addUsage | trimUsage =>
      simp [step, perform, Answer.outcome?] at answered

/-- A hardware address is known once a record with it is accepted. -/
theorem knows_of_mergeWith {σ : Type} (changed : DeviceRecord → σ → σ) (alerting : Bool)
    (instant : Int) (store : Store) (noted : σ) {raw record : DeviceRecord}
    (accepted : accept raw = .ok record) (named : record.macAddress ≠ "")
    : (store.mergeWith changed alerting instant raw noted).2.1.inventory.Knows
        record.macAddress := by
  obtain ⟨merged, created, next, brought, result⟩ :=
    mergeWith_of_accepted changed alerting instant store noted accepted
  rw [result]
  exact brought.knows named (brought.mac_of_named named)

/-- A hardware address is known after a warm-up that accepted it, by induction on the records. -/
theorem knows_of_warmUpEach {records : List (Int × DeviceRecord)}
    (regular : store.inventory.Regular)
    (plain : ∀ raw ∈ records.map (·.2), ∀ record, accept raw = .ok record → record.Plain)
    {raw record : DeviceRecord} (among : raw ∈ records.map (·.2))
    (accepted : accept raw = .ok record) (named : record.macAddress ≠ "")
    : (store.warmUpEach records).2.inventory.Knows record.macAddress := by
  induction records generalizing store with
  | nil => simp at among
  | cons entry rest ih =>
      obtain ⟨instant, first⟩ := entry
      obtain ⟨plainFirst, plainRest⟩ := List.forall_mem_cons.mp plain
      have regularNext
          : (store.mergeWith (fun _ _ => ()) false instant first ()).2.1.inventory.Regular :=
        (changes_mergeWith _ _ instant store () plainFirst .done).kept kept_regular regular
      rw [warmUpEach_cons_snd]
      rcases List.mem_cons.mp among with rfl | later
      · have known := knows_of_mergeWith (fun _ _ => ()) false instant store () accepted named
        have changes := changes_warmUpEach
          (store.mergeWith (fun _ _ => ()) false instant raw ()).2.1 plainRest
        exact (changes.knows_or_removed regularNext named known).resolve_left (by simp)
      · exact ih regularNext plainRest later

/-- A hardware address is known after a step that takes it in. -/
theorem knows_of_takesIn {call : Call} (regular : store.inventory.Regular)
    (admits : call.Admits DeviceRecord.Plain) (named : mac ≠ "")
    (takesIn : (store.step call).TakesIn mac)
    : (store.step call).after.inventory.Knows mac := by
  obtain ⟨raw, among, record, accepted, rfl⟩ := takesIn
  cases call with
  | merge instant given =>
      rw [step, perform_merge]
      dsimp only
      obtain rfl := List.mem_singleton.mp among
      exact knows_of_mergeWith _ _ instant store () accepted named
  | mergeNoting instant given =>
      rw [step, perform_mergeNoting]
      dsimp only
      obtain rfl := List.mem_singleton.mp among
      exact knows_of_mergeWith _ _ instant store [] accepted named
  | warmUp records =>
      rw [step, perform_warmUp]
      exact knows_of_warmUpEach regular admits among accepted named
  | prune | replaceConnections | addUsage | trimUsage => simp [step, Call.records] at among

/-- A listed hardware address is known, since its device stands under its own key. -/
theorem knows_of_lists {step : Step} (regular : step.after.inventory.Regular) (named : mac ≠ "")
    (lists : step.Lists mac)
    : step.after.inventory.Knows mac := by
  obtain ⟨_, listed, rfl⟩ := lists
  obtain ⟨key, stored, present, rfl⟩ := mem_list_nil.mp listed
  exact ⟨stored, regular.keyed.key_of_mac present named ▸ present, rfl⟩

-----------------------------------------------------------------------------------------
-- Announcements along a run
-----------------------------------------------------------------------------------------

/-- A known hardware address stays known until it is pruned, by induction on the steps. -/
theorem Run.knows_or_prunes {steps : List Step} (run : Run store steps last)
    (plain : ∀ step ∈ steps, step.call.Admits DeviceRecord.Plain)
    (regular : store.inventory.Regular) (named : mac ≠ "") (known : store.inventory.Knows mac)
    : (∃ step ∈ steps, step.Prunes mac) ∨ last.inventory.Knows mac := by
  induction run with
  | done => exact .inr known
  | @step store call rest last _ ih =>
      have changes := changes_perform store (plain (store.step call) List.mem_cons_self)
      rcases changes.knows_or_removed regular named known with left | stays
      · exact .inl ⟨_, List.mem_cons_self, left⟩
      · have later := ih (fun step member => plain step (List.mem_cons_of_mem _ member))
          (changes.kept kept_regular regular) stays
        rcases later with ⟨step, member, prunes⟩ | known
        · exact .inl ⟨step, List.mem_cons_of_mem _ member, prunes⟩
        · exact .inr known

/-- A hardware address is announced only if it was pruned since it was last announced, taken in or
listed. Witness: it is known after the first of the two steps and unknown before the second.
-/
theorem Run.prunes_before_announces {clock : Clock} {binInterval reach : Int}
    {earlier between later : List Step} {first again : Step}
    (run
      : Run (.empty clock binInterval reach)
          (earlier ++ first :: (between ++ again :: later)) last)
    (plain
      : ∀ step ∈ earlier ++ first :: (between ++ again :: later),
          step.call.Admits DeviceRecord.Plain)
    (named : mac ≠ "")
    (stored : first.Announces mac ∨ first.TakesIn mac ∨ first.Lists mac)
    (announced : again.Announces mac)
    : ∃ step ∈ between, step.Prunes mac := by
  simp only [List.mem_append, List.mem_cons] at plain
  obtain ⟨start, before, rest⟩ := run.split
  have regular : start.inventory.Regular :=
    before.kept kept_regular (fun step member => plain step (.inl member)) regular_empty
  cases rest with
  | @step _ call _ _ rest =>
      have admits := plain (start.step call) (.inr (.inl rfl))
      have regularAfter := (changes_perform start admits).kept kept_regular regular
      have known : (start.step call).after.inventory.Knows mac := by
        rcases stored with announces | takesIn | lists
        · exact knows_of_takesIn regular admits named (unknown_of_announces announces named).2
        · exact knows_of_takesIn regular admits named takesIn
        · exact knows_of_lists regularAfter named lists
      obtain ⟨middle, passed, final⟩ := rest.split
      have plainBetween := fun step member => plain step (.inr (.inr (.inl member)))
      rcases passed.knows_or_prunes plainBetween regularAfter named known with prunes | still
      · exact prunes
      · cases final with
        | step => exact absurd still (unknown_of_announces announced named).1

/-- A device that is merged, pruned and merged again is announced twice. -/
theorem Run.prunes_before_announces_twice
    : let first := (empty (.fixed 0) 0 0).step (.merge 0 (.withMac "00:11:22:33:44:55"))
      let prune := first.after.step (.prune [])
      let again := prune.after.step (.merge 0 (.withMac "00:11:22:33:44:55"))
      first.Announces "00:11:22:33:44:55"
      ∧ again.Announces "00:11:22:33:44:55"
      ∧ ∃ step ∈ [prune], step.Prunes "00:11:22:33:44:55" := by
  intro first prune again
  have run : Run (empty (.fixed 0) 0 0) ([] ++ first :: ([prune] ++ again :: [])) again.after :=
    .step (.step (.step .done))
  have announcedFirst : first.Announces "00:11:22:33:44:55" := rfl
  have announcedAgain : again.Announces "00:11:22:33:44:55" := rfl
  have plain
      : ∀ step ∈ [] ++ first :: ([prune] ++ again :: []),
          step.call.Admits DeviceRecord.Plain := by
    intro step member
    apply Call.admits_plain
    simp only [List.nil_append, List.cons_append, List.mem_cons, List.not_mem_nil, or_false]
      at member
    rcases member with rfl | rfl | rfl <;> decide +kernel
  exact ⟨
    announcedFirst,
    announcedAgain,
    run.prunes_before_announces plain (by decide) (.inl announcedFirst) announcedAgain
  ⟩

end Store

end NetInventory
