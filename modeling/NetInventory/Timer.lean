/-! Timers that go off at equal distances. -/

namespace NetInventory

/-- A timer that goes off at equal distances. Times are counted in any one unit. -/
structure Timer where
  period : Nat
  /-- How much time is left until the timer goes off. -/
  left : Nat
deriving DecidableEq, Repr

namespace Timer

/-- A timer that goes off after a period for the first time; a period is one unit at least. -/
def start (period : Nat) : Timer :=
  ⟨max period 1, max period 1⟩

/-- Lets time pass, and gives the number of times that the timer goes off. -/
def advance (time : Nat) (timer : Timer) : Nat × Timer :=
  if time < timer.left then
    (0, { timer with left := timer.left - time })
  else
    let beyond := time - timer.left
    (beyond / timer.period + 1, { timer with left := timer.period - beyond % timer.period })

end Timer

end NetInventory
