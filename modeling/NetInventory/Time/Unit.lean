/-! Units of time, and how long a period may be. -/

namespace NetInventory.Time

/-- The nanoseconds in a second. -/
def secondNanos : Nat :=
  1000000000

/-- The seconds in a day. -/
def daySeconds : Int :=
  86400

/-- The greatest number of whole seconds in a period: those in `2 ^ 63 - 1` milliseconds. -/
def greatestSeconds : Int :=
  9223372036854775

end NetInventory.Time
