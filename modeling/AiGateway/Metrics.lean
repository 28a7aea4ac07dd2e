import Mathlib.Data.Rat.Floor
import Mathlib.Data.NNRat.Defs
import Mathlib.Data.UInt

/-! The counter behind the health of an endpoint: a ring of buckets, each with the lap in which
it was last counted in. Times are in seconds, and the divisions of the code are exact. -/

namespace AiGateway.Metrics

structure RollingCounter where
  buckets : Nat
  bucketDuration : ℚ
  start : ℚ
  counters : List UInt32
  laps : List Nat
  deriving DecidableEq

def maxU64 : Nat := 18446744073709551615

/-- A quotient of two doubles that are not negative, cast to an integer: the cast saturates, and
takes what is not a number for zero. -/
def quotient (numerator denominator : ℚ) : Nat :=
  if denominator = 0 then (if numerator = 0 then 0 else maxU64)
  else if ⌊numerator / denominator⌋₊ ≤ maxU64 then ⌊numerator / denominator⌋₊ else maxU64

namespace RollingCounter

/-- None where the code panics, without any bucket. -/
def new (window : ℚ≥0) (buckets : Nat) (now : ℚ) : Option RollingCounter :=
  if 0 < buckets then
    some ⟨buckets, window / buckets, now, List.replicate buckets 0, List.replicate buckets 0⟩
  else none

variable (counter : RollingCounter)

/-- `duration_since`, which is zero for what lies before. -/
def elapsed (now : ℚ) : ℚ := if counter.start ≤ now then now - counter.start else 0

def lap (now : ℚ) : Nat := quotient (counter.elapsed now) (counter.bucketDuration * counter.buckets)

def index (now : ℚ) : Nat := quotient (counter.elapsed now) counter.bucketDuration % counter.buckets

def getIndexAndLap (now : ℚ) : Nat × Nat := (counter.index now, counter.lap now)

/-- The exchange of the laps succeeds where no other thread runs in between. -/
def incr (now : ℚ) : RollingCounter :=
  let (index, lap) := counter.getIndexAndLap now
  let (counters, laps) :=
    if counter.laps[index]? ≠ some lap then (counter.counters.set index 0, counter.laps.set index lap)
    else (counter.counters, counter.laps)
  { counter with counters := counters.modify index (· + 1), laps }

def total (now : ℚ) : UInt32 :=
  let (_, nowLap) := counter.getIndexAndLap now
  ((counter.counters.zip counter.laps).filterMap fun (count, lap) => if lap = nowLap then some count else none).sum

end RollingCounter

/-- What is asked of a counter, and when. -/
inductive Event where
  | incr (now : ℚ)
  | total (now : ℚ)

def Event.now : Event → ℚ
  | .incr now | .total now => now

def step (counter : RollingCounter) : Event → RollingCounter
  | .incr now => counter.incr now
  | .total _ => counter

def run (counter : RollingCounter) (events : List Event) : RollingCounter := events.foldl step counter

end AiGateway.Metrics
