import NetInventory.Traffic.Amount
import NetInventory.Time.DateTime

/-! Traffic over time. A tracker counts bytes in bins: the newest bin is open until it has been
open for longer than the bin interval, and bins that began longer ago than the history reaches
are dropped. Instants and periods are in nanoseconds.
-/

namespace NetInventory

/-- The bytes that were counted from one instant to another. -/
structure Bin where
  start : Int
  /-- The end of the bin, once it is closed. -/
  stop : Option Int
  amount : Amount
deriving DecidableEq, Inhabited, Repr

namespace Bin

/-- An empty bin that is open from an instant on. -/
def opening (start : Int) : Bin :=
  ⟨start, none, .zero⟩

/-- How long ago the bin began. -/
def age (now : Int) (bin : Bin) : Int :=
  now - bin.start

/-- The bytes counted in some bins together. -/
def sum (bins : List Bin) : Amount :=
  bins.foldl (fun amount bin => amount + bin.amount) .zero

/-- The fields of a bin in messages. -/
structure Entry where
  start : Time.DateTime
  stop : Option Time.DateTime
  rx : UInt64
  tx : UInt64
deriving DecidableEq

/-- The JSON form of a bin. -/
def Entry.codec : Json.Codec Entry :=
  .record
    (.cons (.required "start" Time.DateTime.codec) <|
      .cons (.optional "end" (.option Time.DateTime.codec) none) <|
      .cons (.required "rx_bytes" .uint64) <|
      .cons (.required "tx_bytes" .uint64) .nil)
    (fun e => (e.start, e.stop, e.rx, e.tx, ()))
    (fun (start, stop, rx, tx, _) => ⟨start, stop, rx, tx⟩)

/-- The bin as it stands in messages. -/
def entry (bin : Bin) : Entry where
  start := .ofNanos bin.start
  stop := bin.stop.map .ofNanos
  rx := bin.amount.rx
  tx := bin.amount.tx

end Bin

/-- A history of counted bytes. -/
structure Tracker where
  /-- The bins in front of the newest one, oldest first. -/
  older : List Bin
  newest : Bin
  binInterval : Nat
  reach : Nat
deriving DecidableEq, Inhabited, Repr

namespace Tracker

/-- The width of a bin unless another is asked for: 30 minutes. -/
def defaultBinInterval : Int :=
  1800 * Time.secondNanos

/-- How far a history reaches back unless another reach is asked for: 24 hours. -/
def defaultReach : Int :=
  86400 * Time.secondNanos

/-- A history that begins at an instant. Negative periods count as zero. -/
def start (binInterval reach now : Int) : Tracker :=
  ⟨[], .opening now, binInterval.toNat, reach.toNat⟩

/-- The bins, oldest first. -/
def bins (tracker : Tracker) : List Bin :=
  tracker.older ++ [tracker.newest]

/-- The oldest bin. -/
def oldest (tracker : Tracker) : Bin :=
  tracker.older.headD tracker.newest

/-- The number of bins. -/
def size (tracker : Tracker) : Nat :=
  tracker.older.length + 1

/-- Drops every bin that began longer ago than a period. If none is left, an empty one begins. -/
def restrict (tracker : Tracker) (period now : Int) : Tracker :=
  let kept := tracker.older.dropWhile (fun bin => period < bin.age now)
  if kept.isEmpty && period < tracker.newest.age now then
    { tracker with older := [], newest := .opening now }
  else
    { tracker with older := kept }

/-- Closes the newest bin and opens another. -/
def roll (tracker : Tracker) (now : Int) : Tracker :=
  { tracker with
    older := tracker.older ++ [{ tracker.newest with stop := some now }]
    newest := .opening now }

/-- How a look at the bins comes out that is to make them ready for an amount. -/
inductive Turn where
  /-- The newest bin takes the amount. -/
  | ready
  /-- The bins have changed, and another look is due. -/
  | again (next : Tracker)
  /-- Bins were dropped, and the oldest is still too old; there is nothing more to do. -/
  | futile (next : Tracker)

/-- Looks at the bins: drops those that are too old, or else rolls over to a new one if the newest
has been open for too long.
-/
def turn (tracker : Tracker) (now : Int) : Turn :=
  if tracker.reach < tracker.oldest.age now then
    let kept := tracker.restrict tracker.reach now
    if tracker.reach < kept.oldest.age now then .futile kept else .again kept
  else if tracker.binInterval < tracker.newest.age now then
    .again (tracker.roll now)
  else
    .ready

/-- How much there is left to do before an amount: two looks if the oldest bin is too old, and one
if the newest bin has been open for too long.
-/
def unrest (tracker : Tracker) (now : Int) : Nat :=
  (if tracker.reach < tracker.oldest.age now then 2 else 0)
    + (if tracker.binInterval < tracker.newest.age now then 1 else 0)

/-- A bin that begins now is not old. -/
theorem age_opening (now : Int) : (Bin.opening now).age now = 0 := by
  simp [Bin.opening, Bin.age]

/-- Each look that changes the bins leaves less to do: dropping clears the oldest bin and makes the
newest one younger at most, and rolling over begins a bin of age zero.
-/
theorem unrest_turn {tracker next : Tracker} {now : Int} (h : tracker.turn now = .again next)
    : next.unrest now < tracker.unrest now := by
  unfold turn at h
  split at h
  next old =>
    dsimp only at h
    split at h
    · simp at h
    next settled =>
      obtain rfl : tracker.restrict tracker.reach now = next := by simpa using h
      have same : (tracker.restrict tracker.reach now).reach = tracker.reach := by
        unfold restrict
        dsimp only
        split <;> rfl
      have first : ¬ ((tracker.restrict tracker.reach now).reach : Int)
          < (tracker.restrict tracker.reach now).oldest.age now := by
        rw [same]; exact settled
      simp only [unrest, if_pos old, if_neg first]
      split <;> omega
  next young =>
    split at h
    next open_ =>
      obtain rfl : tracker.roll now = next := by simpa using h
      have oldest : (tracker.roll now).oldest.age now = tracker.oldest.age now := by
        unfold roll oldest
        cases tracker.older <;> rfl
      have first : ¬ ((tracker.roll now).reach : Int) < (tracker.roll now).oldest.age now := by
        rw [oldest]; exact young
      have fresh : ¬ ((tracker.roll now).binInterval : Int) < (tracker.roll now).newest.age now := by
        change ¬ (tracker.binInterval : Int) < (Bin.opening now).age now
        rw [age_opening]
        omega
      simp only [unrest, if_neg young, if_pos open_, if_neg first, if_neg fresh]
      omega
    · simp at h

/-- Makes the bins ready for an amount: looks at them until nothing changes. -/
def settle (tracker : Tracker) (now : Int) : Tracker :=
  match _h : tracker.turn now with
  | .ready => tracker
  | .again next => next.settle now
  | .futile next => next
termination_by tracker.unrest now
decreasing_by exact unrest_turn ‹_›

/-- Counts an amount at an instant. -/
def add (tracker : Tracker) (amount : Amount) (now : Int) : Tracker :=
  let ready := tracker.settle now
  { ready with newest := { ready.newest with amount := ready.newest.amount + amount } }

/-- The bytes counted in all bins. -/
def total (tracker : Tracker) : Amount :=
  Bin.sum tracker.bins

/-- The bytes counted in the bins that began within a period, newest first. -/
def within (tracker : Tracker) (period now : Int) : Amount :=
  Bin.sum (tracker.bins.reverse.takeWhile (fun bin => bin.age now ≤ period))

/-- The JSON value of the bins. -/
def encode (tracker : Tracker) : Json :=
  (Json.Codec.list Bin.Entry.codec).encode (tracker.bins.map (·.entry))

end Tracker

end NetInventory
