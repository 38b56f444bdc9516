import NetInventory.Device.Record
import NetInventory.Time.DateTime

/-! Conditions on the age of a record. Times are whole seconds since the epoch, and periods are
nanoseconds that are cut to whole seconds.
-/

namespace NetInventory

/-- A condition on records. -/
abbrev Condition :=
  DeviceRecord → Bool

namespace Condition

/-- Records that changed at a time or later. -/
def updatedSince (time : Int64) : Condition :=
  fun record => time ≤ record.lastUpdate

/-- Records that did not change after a time. -/
def updatedAtOrBefore (time : Int64) : Condition :=
  fun record => record.lastUpdate ≤ time

/-- The nearest time that can be told. -/
def clampTime (seconds : Int) : Int64 :=
  .ofInt (max Int64.minValue.toInt (min seconds Int64.maxValue.toInt))

/-- The time that lies a period before another, with the period cut to whole seconds toward
zero.
-/
def cutoff (now : Int64) (period : Int) : Int64 :=
  clampTime (now.toInt - period.tdiv Time.secondNanos)

/-- Records that changed within a period. -/
def updatedWithin (now : Int64) (period : Int) : Condition :=
  updatedSince (cutoff now period)

/-- Records that have not changed for a period. -/
def olderThan (now : Int64) (period : Int) : Condition :=
  updatedAtOrBefore (cutoff now period)

end Condition

end NetInventory
