import ScopeGate.Time.Calendar

/-!
# Durations, instants and the clock

A duration is a number of nanoseconds. An instant is a number of seconds since the start of 1970 in
universal time and a number of nanoseconds after it; the leap second that follows a second has no
number of its own, so inside it the nanoseconds run on from one thousand million to two. Instants
are ordered by their seconds, then by their nanoseconds, and they can be written as dates only
between two years, which bound the instants that are accepted from outside.

The clock shows both the instant and a reading that only grows, by which ages are measured.
-/

namespace ScopeGate

structure Duration where
  nanos : Nat
  deriving DecidableEq, Repr, Inhabited

namespace Duration

def nanosPerSecond : Nat := 1000000000

def nanosPerMilli : Nat := 1000000

def ofSeconds (n : Nat) : Duration := ⟨n * nanosPerSecond⟩

def ofMillis (n : Nat) : Duration := ⟨n * nanosPerMilli⟩

def wholeSeconds (d : Duration) : Nat := d.nanos / nanosPerSecond

def subsecondNanos (d : Duration) : Nat := d.nanos % nanosPerSecond

def isZero (d : Duration) : Bool := d.nanos == 0

instance : Add Duration := ⟨fun a b => ⟨a.nanos + b.nanos⟩⟩

end Duration

structure Instant where
  seconds : Int
  nanos : Nat
  deriving DecidableEq, Repr, Inhabited

namespace Instant

def epoch : Instant := ⟨0, 0⟩

protected def le (a b : Instant) : Prop :=
  a.seconds < b.seconds ∨ (a.seconds = b.seconds ∧ a.nanos ≤ b.nanos)

instance : LE Instant := ⟨Instant.le⟩

instance (a b : Instant) : Decidable (a ≤ b) :=
  inferInstanceAs (Decidable (a.seconds < b.seconds ∨ (a.seconds = b.seconds ∧ a.nanos ≤ b.nanos)))

/-- The instant a number of nanoseconds from the start of 1970. -/
def ofNanos (n : Int) : Instant :=
  ⟨n / Duration.nanosPerSecond, (n % Duration.nanosPerSecond).toNat⟩

def secondsPerDay : Int := 86400

def firstYear : Int := -262143

def lastYear : Int := 262142

def firstSecond : Int := Date.dayNumber ⟨firstYear, 1, 1⟩ * secondsPerDay

def lastSecond : Int := Date.dayNumber ⟨lastYear + 1, 1, 1⟩ * secondsPerDay - 1

def inRange (seconds : Int) : Bool := firstSecond ≤ seconds && seconds ≤ lastSecond

def ofSeconds? (seconds : Int) : Option Instant :=
  if inRange seconds then some ⟨seconds, 0⟩ else none

example : firstSecond = -8334601228800 ∧ lastSecond = 8210266876799 := by decide

end Instant

/-- The time as it is told: where the clock started and how far it has run. -/
structure Clock where
  /-- The instant of the start, in nanoseconds from the start of 1970. -/
  origin : Int
  /-- The time that has passed since the start. -/
  elapsed : Duration
  deriving DecidableEq, Repr, Inhabited

namespace Clock

def startingAt (millis : Int) : Clock := ⟨millis * Duration.nanosPerMilli, ⟨0⟩⟩

def now (c : Clock) : Instant := Instant.ofNanos (c.origin + c.elapsed.nanos)

def advance (c : Clock) (d : Duration) : Clock := { c with elapsed := c.elapsed + d }

example : (startingAt 1700000000000).now = ⟨1700000000, 0⟩ := by decide

end Clock

end ScopeGate
