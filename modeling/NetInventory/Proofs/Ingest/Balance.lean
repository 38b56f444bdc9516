import NetInventory.Proofs.Ingest.Run
import NetInventory.Proofs.Store.Displacement
import NetInventory.Reporter

/-! The counters of ingestion. Each message that is received counts once as merged, unreadable,
rejected or taken in as traffic, and alerts and merged records are counted as they go out. As long
as no IP address reads as a hardware address, a device comes in with an alert and leaves by pruning
only, so the alerts are the devices that are there and those that were pruned.
-/

namespace NetInventory

def Effect.isAlert : Effect → Bool
  | alert _ => true
  | merged _ => false

def Effect.isMerged : Effect → Bool
  | alert _ => false
  | merged _ => true

/-- The IP address of the sighting that the message holds, if any, is no hardware address. -/
def BusMessage.Plain (message : BusMessage) : Prop :=
  ∀ sighting ∈ message.sighting?, Mac.isAddress sighting.ip = false

instance (message : BusMessage) : Decidable message.Plain :=
  inferInstanceAs (Decidable (∀ sighting ∈ message.sighting?, _))

namespace Ingest

/-- The counters agree with each other and with what others have learned. -/
structure Balanced (effects : List Effect) (ingest : Ingest) : Prop where
  received
    : ingest.stats.received
      = ingest.stats.merged + ingest.stats.decodeErrors + ingest.stats.rejected
        + ingest.stats.trafficUpdates
  alerts : effects.countP (·.isAlert) = ingest.stats.alerts
  merged : effects.countP (·.isMerged) = ingest.stats.merged

/-- The alerts are the devices that are there and those that were pruned. -/
structure Accounted (ingest : Ingest) : Prop where
  consistent : Store.Consistent ingest.store.inventory
  alerts : ingest.store.size + ingest.stats.pruned = ingest.stats.alerts

/-- Each way of handling a message counts it once and what it lets others know as often. -/
theorem kept_balanced : Kept (fun _ => True) Balanced where
  handled := by
    rintro instant message ingest effects more next - way ⟨received, alerts, merged⟩
    cases way with
    | @merged _ record stored created _ _ _ _ =>
        refine ⟨?taken, ?announced, ?noted⟩
        case taken =>
          simp only [count, received]
          omega
        case announced =>
          simp only [count, List.countP_append, alerts]
          cases created <;> rfl
        case noted =>
          simp only [count, List.countP_append, merged]
          cases created <;> rfl
    | unread _ | refused _ _ | connected _ | counted _ _ | uncounted _ _ =>
        refine ⟨?_, by simpa [count] using alerts, by simpa [count] using merged⟩
        simp only [count, received]
        omega
  pruned balanced := ⟨balanced.received, balanced.alerts, balanced.merged⟩

theorem Accounted.of_outline {ingest next : Ingest} (accounted : ingest.Accounted)
    (same : next.store.inventory.outline = ingest.store.inventory.outline)
    (alerts : next.stats.alerts = ingest.stats.alerts)
    (pruned : next.stats.pruned = ingest.stats.pruned)
    : next.Accounted where
  consistent :=
    Store.kept_consistent.retouch (Inventory.sameAddresses_of_outline same) accounted.consistent
  alerts := by
    rw [alerts, pruned, Store.size, Inventory.size_of_outline same]
    exact accounted.alerts

/-- A record adds a device exactly if it is announced, since it displaces none; pruning counts the
devices that it takes out.
-/
theorem kept_accounted : Kept BusMessage.Plain fun _ ingest => ingest.Accounted where
  handled := by
    rintro instant message ingest effects more next plain way accounted
    cases way with
    | unread _ | refused _ _ => exact ⟨accounted.consistent, accounted.alerts⟩
    | @merged raw record stored created inventory read accepted brought =>
        obtain ⟨sighting, held, made⟩ := exists_sighting_of_read read
        obtain ⟨-, unnamed, ips⟩ := DeviceRecord.ofSighting_eq_ok made
        have rawPlain : raw.Plain := by
          intro ip member
          rw [ips, List.mem_singleton] at member
          exact member ▸ plain sighting held
        obtain ⟨mac, -, rfl, -⟩ := Store.accept_eq_ok accepted
        have tidy : DeviceRecord.Tidy { raw with macAddress := mac } :=
          ⟨rawPlain, fun _ => unnamed⟩
        obtain ⟨consistent, alerts⟩ := accounted
        have free := brought.not_displaces consistent.regular consistent.indexed tidy
        have size := brought.size_eq_iff.mpr free
        refine ⟨Store.kept_consistent.bring accepted tidy brought consistent, ?_⟩
        simp only [count, Store.size, size] at alerts ⊢
        cases created <;> simp <;> omega
    | connected _ =>
        exact accounted.of_outline (Inventory.outline_replaceConnections _ _) rfl rfl
    | counted _ _ | uncounted _ _ =>
        exact accounted.of_outline (Inventory.outline_addUsage _ _ _ _) rfl rfl
  pruned := by
    rintro ingest - ⟨consistent, alerts⟩
    obtain ⟨keys, inventory, stats⟩ := exists_prune ingest
    have sizes := Inventory.size_takeAll ingest.store.inventory keys
    refine ⟨?_, ?_⟩
    · rw [inventory]
      exact (Store.changes_takeAll _ keys).kept Store.kept_consistent consistent
    · simp only [Store.size, stats, inventory] at alerts ⊢
      omega

end Ingest

/-- In every run of ingestion from an empty store each message received counts once more, the
counters of alerts and of merged records agree with what went out, and if no IP address of a
sighting is a hardware address, the devices there and the devices pruned are the alerts.
-/
theorem IngestActor.run_balance (clock : Clock) (binInterval reach : Int) (config : IngestConfig)
    (events : List IngestEvent)
    : let (effects, last) :=
        (create (.empty clock binInterval reach) config).performAll events
      let stats := last.ingest.stats
      stats.received
        = stats.merged + stats.decodeErrors + stats.rejected + stats.trafficUpdates
      ∧ effects.countP (·.isAlert) = stats.alerts
      ∧ effects.countP (·.isMerged) = stats.merged
      ∧ ((∀ message, .submit message ∈ events → message.Plain)
        → last.ingest.store.size + stats.pruned = stats.alerts) := by
  let store : Store := .empty clock binInterval reach
  have balanced := run_kept Ingest.kept_balanced store config events ⟨rfl, rfl, rfl⟩
    fun _ _ => trivial
  refine ⟨balanced.received, balanced.alerts, balanced.merged, fun plain => ?_⟩
  have start : (Ingest.create store config.staleAfter).Accounted :=
    ⟨⟨Store.regular_empty, Inventory.indexed_empty⟩, rfl⟩
  exact (run_kept Ingest.kept_accounted store config events start plain).alerts

/-- A device is announced, a message cannot be read, and the device is pruned after two days. -/
theorem IngestActor.run_balance_pruned
    : let seen : BusMessage := .ofSighting (.arp ⟨"10.0.0.5", "00:11:22:33:44:55", 0, "eth0"⟩)
      let events : List IngestEvent :=
        [.submit seen, .submit ⟨"", .empty⟩, .turn 0, .turn 0, .tick]
      let clock : Clock := ⟨fun n => if n = 0 then 0 else 172800, 0⟩
      let last := ((create (.empty clock 0 0) .standard).performAll events).2
      (∀ message, .submit message ∈ events → message.Plain)
      ∧ last.ingest.stats.pruned = 1
      ∧ last.ingest.store.size + last.ingest.stats.pruned = last.ingest.stats.alerts := by
  intro seen events clock last
  have plain (message : BusMessage) (comes : .submit message ∈ events) : message.Plain := by
    simp only [events, List.mem_cons, IngestEvent.submit.injEq, reduceCtorEq, List.not_mem_nil,
      or_false] at comes
    rcases comes with rfl | rfl <;> decide +kernel
  have pruned : last.ingest.stats.pruned = 1 := by decide +kernel
  refine ⟨plain, pruned, ?_⟩
  -- The equation of this run must not be looked for by running it.
  clear_value events clock
  obtain ⟨-, -, -, accounted⟩ := run_balance clock 0 0 .standard events
  exact accounted plain

end NetInventory
