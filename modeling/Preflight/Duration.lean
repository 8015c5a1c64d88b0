/-!
# Durations

A duration is a number of whole seconds of 64 bits and a number of nanoseconds below one second.
`Duration.toNanos` is the length as a natural number; it is injective, and the operations are
stated by what they do to it.

* `Duration.minusOneSecond` subtracts one second and stops at zero.
* `Duration.third` divides by three.  The seconds are divided first and their remainder is carried
  into the nanoseconds, so no intermediate number leaves 64 bits.
-/

namespace Preflight

/-- Nanoseconds in a second. -/
def nanosPerSecond : Nat := 1000000000

/-- A length of time. -/
structure Duration where
  /-- Whole seconds. -/
  seconds : UInt64
  /-- Nanoseconds beyond the whole seconds. -/
  nanos : Nat
  /-- The nanoseconds make less than a second. -/
  nanos_lt : nanos < nanosPerSecond
  deriving DecidableEq, Repr

namespace Duration

/-- No time at all. -/
def zero : Duration := ⟨0, 0, by decide⟩

instance : Inhabited Duration := ⟨zero⟩

/-- A number of whole seconds. -/
def ofSeconds (seconds : UInt64) : Duration := ⟨seconds, 0, by decide⟩

/-- Whole seconds with nanoseconds, when the nanoseconds make less than a second. -/
def ofParts? (seconds : UInt64) (nanos : Nat) : Option Duration :=
  if h : nanos < nanosPerSecond then some ⟨seconds, nanos, h⟩ else none

/-- The length in nanoseconds. -/
def toNanos (d : Duration) : Nat := d.seconds.toNat * nanosPerSecond + d.nanos

/-- Whether no time is left. -/
def isZero (d : Duration) : Bool := d.seconds == 0 && d.nanos == 0

/-- One second less, or zero when there is less than a second. -/
def minusOneSecond (d : Duration) : Duration :=
  if d.seconds = 0 then zero else ⟨d.seconds - 1, d.nanos, d.nanos_lt⟩

/-- A third, rounded down to whole nanoseconds. -/
def third (d : Duration) : Duration where
  seconds := d.seconds / 3
  nanos := d.nanos / 3
    + ((d.seconds.toNat % 3) * nanosPerSecond + d.nanos % 3) / 3
  nanos_lt := by
    have h := d.nanos_lt
    have h3 : d.seconds.toNat % 3 < 3 := Nat.mod_lt _ (by decide)
    unfold nanosPerSecond at h ⊢
    omega

end Duration

end Preflight
