/-
Instants of calendar time.

How instants are kept is left to a calendar. What is asked of one is the instant at a number of Unix milliseconds, the
instant some seconds after another, and the milliseconds of an instant. A calendar has its ends, so either of the first
two may be out of its reach.

- `Calendar`: a way to keep instants.
- `signed?`: an unsigned count as the signed one that a calendar takes.
- `Calendar.civil`: the years from -262143 to 262142, to the millisecond.
-/
namespace InteractionKit

/-- a way to keep instants as values of `τ` -/
structure Calendar (τ : Type) where
  /-- the instant at a number of Unix milliseconds, none out of reach -/
  ofMillis? : Int64 → Option τ
  /-- the instant a number of seconds after another, none out of reach -/
  later? : τ → Int64 → Option τ
  /-- the Unix milliseconds of an instant, rounded down -/
  millis : τ → Int

/-- the number with a sign, none if it takes all 64 bits -/
def signed? (n : UInt64) : Option Int64 := if n.toNat < 9223372036854775808 then some n.toInt64 else none

/-! ## The civil calendar -/

/-- an instant of the civil calendar, to the millisecond: from the first day of the year -262143 on, up to the end of the
year 262142, counted in days of 86400000 milliseconds from the epoch -/
structure Instant where
  millis : Int
  first_le : -96465292 * 86400000 ≤ millis
  lt_end : millis < 95026237 * 86400000
deriving DecidableEq

instance : LE Instant := ⟨fun t u => t.millis ≤ u.millis⟩

def Instant.ofMillis? (m : Int) : Option Instant :=
  if h : -96465292 * 86400000 ≤ m ∧ m < 95026237 * 86400000 then some ⟨m, h.1, h.2⟩ else none

namespace Calendar

def civil : Calendar Instant where
  ofMillis? m := Instant.ofMillis? m.toInt
  later? t s := Instant.ofMillis? (t.millis + 1000 * s.toInt)
  millis := Instant.millis

end Calendar

end InteractionKit
