import Mathlib.Data.Rat.Defs
import Mathlib.Algebra.Order.Ring.Rat

/-!
# Clocks and machine numbers

Clock readings and durations are natural numbers of nanoseconds, as the
standard library keeps them; the text form of a wall-clock reading is left out.
Fixed-width counters are natural numbers that are reduced where the code adds
to them.  Floating-point numbers that take part in arithmetic are exact
rationals; `F64` adds the non-finite values where the code stores a number
without looking at it.
-/

namespace NetGuardian

namespace Duration

def fromSecs (secs : Nat) : Nat := secs * 1000000000

def fromMillis (millis : Nat) : Nat := millis * 1000000

/-- Whole seconds, rounded down. -/
def asSecs (duration : Nat) : Nat := duration / 1000000000

/-- Exact seconds. -/
def asSecsF64 (duration : Nat) : ℚ := (duration : ℚ) / 1000000000

end Duration

/-- Time since an earlier reading; zero when the readings are out of order. -/
def Instant.elapsed (earlier now : Nat) : Nat := now - earlier

/-- Addition of a `u32` counter. -/
def addU32 (left right : Nat) : Nat := (left + right) % 2 ^ 32

/-- Addition of a `u64` counter. -/
def addU64 (left right : Nat) : Nat := (left + right) % 2 ^ 64

/-- A stored floating-point number: exact, or one of the non-finite values. -/
inductive F64 where
  | finite (value : ℚ)
  | infinity
  | negInfinity
  | nan
deriving DecidableEq

/-- `f64::clamp` for finite bounds.  A NaN stays a NaN. -/
def F64.clamp (low high : ℚ) : F64 → F64
  | .finite value => .finite (max low (min high value))
  | .infinity => .finite high
  | .negInfinity => .finite low
  | .nan => .nan

/-- The comparison `<` of `f64`.  A NaN is below nothing and above nothing. -/
def F64.lt : F64 → F64 → Bool
  | .finite left, .finite right => decide (left < right)
  | .finite _, .infinity | .negInfinity, .finite _
  | .negInfinity, .infinity => true
  | _, _ => false

/-- The comparison `<=` of `f64`, which is false when a side is a NaN. -/
def F64.le : F64 → F64 → Bool
  | .finite left, .finite right => decide (left ≤ right)
  | .negInfinity, .negInfinity | .infinity, .infinity => true
  | left, right => F64.lt left right

/-- The sum of `f64`, exact between finite numbers. -/
def F64.add : F64 → F64 → F64
  | .finite left, .finite right => .finite (left + right)
  | .nan, _ | _, .nan | .infinity, .negInfinity | .negInfinity, .infinity => .nan
  | .infinity, _ | _, .infinity => .infinity
  | .negInfinity, _ | _, .negInfinity => .negInfinity

/-- The quotient of an `f64` and a positive count, exact for finite numbers. -/
def F64.divCount : F64 → Nat → F64
  | .finite value, count => .finite (value / count)
  | value, _ => value

end NetGuardian
