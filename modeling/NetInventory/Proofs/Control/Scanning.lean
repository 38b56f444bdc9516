import NetInventory.Control.Service
import NetInventory.Proofs.Address.Network
import NetInventory.Proofs.Collector.Calls

/-! Requests to scan. Such a request is refused as a whole if any of its arguments is invalid. Else
every collector is called with all of them, or none is because the scheduler has stopped. A network
whose length has a plus sign in front is taken for valid.
-/

namespace NetInventory.Control.Service

variable {κ : Type} {kind : CommandKind} {arguments : List String}

/-- Makes a scan of a kind. -/
def scan (kind : CommandKind) (arguments : List String) (service : Service κ)
    : ResponseCode × List (CollectorCall κ) :=
  match kind with
  | .scanNet => service.scanNet ⟨arguments⟩
  | .scanHost => service.scanHost ⟨arguments⟩

-----------------------------------------------------------------------------------------
-- Arguments
-----------------------------------------------------------------------------------------

/-- The text may be an argument of a scan: it is a network, or a host without white space. -/
def Valid : CommandKind → String → Prop
  | .scanNet, text => Network.Written [] text
  | .scanHost, text => text ≠ "" ∧ ∀ c ∈ text.toList, Text.isBlank c = false

/-- The text passes for an argument: it is one, but for a plus sign in front of the length. -/
def Passes (kind : CommandKind) (text : String) : Prop :=
  Valid kind text ∨ kind = .scanNet ∧ Network.Written ['+'] text

/-- No scan is made: there are no arguments, or one of them is refused. -/
def Refused (kind : CommandKind) (arguments : List String) : Prop :=
  arguments = [] ∨ ∃ argument ∈ arguments, ¬ Passes kind argument

/-- Checks an argument of a scan. -/
def admits (kind : CommandKind) (argument : String) : Bool :=
  match kind with
  | .scanNet => Network.isText argument
  | .scanHost => isHost argument

theorem admits_iff {argument : String} : admits kind argument = true ↔ Passes kind argument := by
  cases kind with
  | scanNet => simp [admits, Passes, Valid, Network.isText_iff_signed, or_and_right, exists_or]
  | scanHost => simp [admits, Passes, Valid, isHost]

theorem scan_eq (kind : CommandKind) (arguments : List String) (service : Service κ)
    : service.scan kind arguments
      = if arguments.isEmpty || !arguments.all (admits kind) then (.invalidRequest, [])
        else service.trigger ⟨kind, arguments⟩ := by
  cases kind <;> rfl

theorem refused_iff
    : (arguments.isEmpty || !arguments.all (admits kind)) = true ↔ Refused kind arguments := by
  simp [Refused, ← admits_iff]

-----------------------------------------------------------------------------------------
-- Answers
-----------------------------------------------------------------------------------------

/-- Whatever happened to the scheduler, a request to scan is refused as a whole if an argument is,
and calls no collector; else, if the scheduler has stopped, the answer says so and no collector is
called; and else every collector is called once, with all the arguments. Collectors that are called
by name do not need the scheduler.
-/
theorem scan_calls (service : Service κ) (events : List Scheduler.Event)
    : let scheduler := service.scheduler.performAll service.registry events
      let later := { service with scheduler }
      let stopped := service.scheduler.running = false
        ∨ Scheduler.Ended service.scheduler.clock events
      (∀ kind arguments,
        Refused kind arguments → later.scan kind arguments = (.invalidRequest, []))
      ∧ (∀ kind arguments,
        ¬ Refused kind arguments → stopped → later.scan kind arguments = (.error, []))
      ∧ (∀ kind arguments,
        ¬ Refused kind arguments
        → ¬ stopped
        → ∃ calls,
          later.scan kind arguments = (.ok, calls)
          ∧ service.registry.Calls (fun _ => True) [⟨kind, arguments⟩] calls)
      ∧ (∀ names commands,
        ∃ calls,
          later.callCollectors ⟨names, commands⟩ = (⟨.ok, .ofNat calls.length⟩, calls)
          ∧ service.registry.Calls (CollectorRegistry.Chosen names) commands calls
          ∧ (service.registry.size < UInt64.size
            → (UInt64.ofNat calls.length).toNat = calls.length)) := by
  intro scheduler later stopped
  have runs : later.scheduler.running = true ↔ ¬ stopped := by
    rw [not_or, Bool.not_eq_false]
    exact Scheduler.running_performAll service.registry events service.scheduler
  have taken (kind : CommandKind) (arguments : List String) (taken : ¬ Refused kind arguments)
      : later.scan kind arguments = later.trigger ⟨kind, arguments⟩ := by
    rw [scan_eq, if_neg (mt refused_iff.mp taken)]
  refine ⟨fun kind arguments refused => ?refused, fun kind arguments valid ended => ?ended,
    fun kind arguments valid goes => ?goes, fun names commands => ?named⟩
  case refused => rw [scan_eq, if_pos (refused_iff.mpr refused)]
  case ended =>
    have still : ¬ later.scheduler.running = true := fun running => runs.mp running ended
    rw [taken kind arguments valid, trigger, Scheduler.trigger, if_neg still]
  case goes =>
    refine ⟨service.registry.callAll [⟨kind, arguments⟩], ?_, service.registry.calls_callAll _⟩
    rw [taken kind arguments valid, trigger, Scheduler.trigger, if_pos (runs.mpr goes)]
  case named =>
    refine ⟨service.registry.callSelected names commands, rfl,
      service.registry.calls_callSelected names commands, fun bound => ?_⟩
    have few := service.registry.length_callSelected_le names commands
    exact UInt64.toNat_ofNat_of_lt (few.trans_lt bound)

/-- A network whose length has a plus sign is no network, and it is scanned all the same. -/
theorem scan_signed
    : let registry : CollectorRegistry Unit := CollectorRegistry.empty.register "arp" ()
      let service : Service Unit := ⟨.standard (.fixed 1000), registry, .start 60000, .create 1⟩
      let arguments := ["10.0.0.0/+24"]
      ¬ Valid .scanNet "10.0.0.0/+24"
      ∧ service.scan .scanNet arguments = (.ok, [⟨(), [⟨.scanNet, arguments⟩]⟩]) := by
  intro registry service arguments
  refine ⟨Network.not_written_of_signed ?_, by decide +kernel⟩
  have spelled : IpAddress.Spelled (.v4 ⟨10, 0, 0, 0⟩) "10.0.0.0".toList := by
    show _ = _
    decide +kernel
  exact ⟨_, _, ['2', '4'], by decide +kernel, spelled, by simp [Text.IsNumeral], by decide⟩

end NetInventory.Control.Service
