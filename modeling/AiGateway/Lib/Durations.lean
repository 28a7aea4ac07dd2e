import Mathlib.Algebra.Order.Ring.Nat

/-! Spans of time as whole seconds and nanoseconds, the way a machine keeps them. Their sum is
that of the numbers of nanoseconds, and is there just where these fit. -/

namespace AiGateway.Lib.Durations

def nanosPerSec : Nat := 1000000000

structure Duration where
  secs : UInt64
  nanos : Nat
  within : nanos < nanosPerSec
  deriving DecidableEq

namespace Duration

theorem nanosPerSec_pos : 0 < nanosPerSec := by decide

theorem carried_within (first second : Duration) : first.nanos + second.nanos - nanosPerSec < nanosPerSec := by
  have left := first.within
  have right := second.within
  omega

def fromSecs (secs : UInt64) : Duration := ⟨secs, 0, nanosPerSec_pos⟩

def isZero (duration : Duration) : Bool := duration.secs == 0 && duration.nanos == 0

def asNanos (duration : Duration) : Nat := duration.secs.toNat * nanosPerSec + duration.nanos

theorem asNanos_fromSecs (secs : UInt64) : (fromSecs secs).asNanos = secs.toNat * nanosPerSec := Nat.add_zero _

/-- The first number of nanoseconds that no duration has. -/
def limit : Nat := UInt64.size * nanosPerSec

def checkedAddSecs (first second : UInt64) : Option UInt64 :=
  if first.toNat + second.toNat < UInt64.size then some (first + second) else none

def checkedAdd (first second : Duration) : Option Duration :=
  match checkedAddSecs first.secs second.secs with
  | none => none
  | some secs =>
    if below : first.nanos + second.nanos < nanosPerSec then some ⟨secs, first.nanos + second.nanos, below⟩
    else
      match checkedAddSecs secs 1 with
      | none => none
      | some carried =>
        some ⟨carried, first.nanos + second.nanos - nanosPerSec, carried_within first second⟩

theorem checkedAddSecs_eq_some {first second sum : UInt64} (added : checkedAddSecs first second = some sum) :
    sum.toNat = first.toNat + second.toNat := by
  rw [checkedAddSecs] at added
  split at added
  · next fits =>
    cases added
    rw [UInt64.toNat_add]
    exact Nat.mod_eq_of_lt fits
  · cases added

theorem checkedAddSecs_eq_none {first second : UInt64} (refused : checkedAddSecs first second = none) :
    UInt64.size ≤ first.toNat + second.toNat := by
  rw [checkedAddSecs] at refused
  split at refused
  · cases refused
  · omega

/-- A sum has as many nanoseconds as its parts. -/
theorem checkedAdd_eq_some {first second sum : Duration} (added : checkedAdd first second = some sum) :
    sum.asNanos = first.asNanos + second.asNanos := by
  rw [checkedAdd] at added
  split at added
  · cases added
  · next secs summed =>
    have total := checkedAddSecs_eq_some summed
    split at added
    · cases added
      simp only [asNanos, total, Nat.add_mul]
      omega
    · split at added
      · cases added
      · next carried more =>
        have carry := checkedAddSecs_eq_some more
        cases added
        have one : (1 : UInt64).toNat = 1 := rfl
        simp only [asNanos, carry, total, one, Nat.add_mul]
        omega

theorem asNanos_lt (duration : Duration) : duration.asNanos < limit := by
  have secs := duration.secs.toNat_lt
  have nanos := duration.within
  unfold asNanos limit UInt64.size
  unfold nanosPerSec at *
  omega

/-- Where there is no sum, it would not fit. -/
theorem checkedAdd_eq_none {first second : Duration} (refused : checkedAdd first second = none) :
    limit ≤ first.asNanos + second.asNanos := by
  unfold checkedAdd at refused
  unfold limit asNanos
  split at refused
  · next summed =>
    have beyond := Nat.mul_le_mul_right nanosPerSec (checkedAddSecs_eq_none summed)
    rw [Nat.add_mul] at beyond
    omega
  · next secs summed =>
    have total := checkedAddSecs_eq_some summed
    split at refused
    · cases refused
    · next carries =>
      split at refused
      · next more =>
        have beyond := Nat.mul_le_mul_right nanosPerSec (checkedAddSecs_eq_none more)
        have one : (1 : UInt64).toNat = 1 := rfl
        rw [total, one, Nat.add_mul, Nat.add_mul, Nat.one_mul] at beyond
        omega
      · cases refused

end Duration

end AiGateway.Lib.Durations
