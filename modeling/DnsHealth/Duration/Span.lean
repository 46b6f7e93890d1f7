import DnsHealth.Duration

/-!
# Spans

A span is an amount of time in calendar and clock units, as people write it. Each unit has a limit.
An amount of a clock unit beyond its limit spills over into the smaller clock units; an amount of a
calendar unit beyond its limit is refused.

A span has a length when it counts neither years nor months. Days then have 24 hours.
-/

namespace DnsHealth

/-- The units of a span, largest first. -/
inductive TimeUnit where
  | year
  | month
  | week
  | day
  | hour
  | minute
  | second
  | millisecond
  | microsecond
  | nanosecond
  deriving DecidableEq, Repr

namespace TimeUnit

/-- The place of a unit, counted from the largest. -/
def rank : TimeUnit → Nat
  | year => 0
  | month => 1
  | week => 2
  | day => 3
  | hour => 4
  | minute => 5
  | second => 6
  | millisecond => 7
  | microsecond => 8
  | nanosecond => 9

/-- The largest amount of a unit that a span holds. -/
def limit : TimeUnit → Nat
  | year => 19998
  | month => 239976
  | week => 1043497
  | day => 7304484
  | hour => 175307616
  | minute => 10518456960
  | second => 631107417600
  | millisecond => 631107417600000
  | microsecond => 631107417600000000
  | nanosecond => 9223372036854775807

/-- The nanoseconds of a unit that has a fixed length. -/
def nanos? : TimeUnit → Option Nat
  | year | month => none
  | week => some 604800000000000
  | day => some 86400000000000
  | hour => some 3600000000000
  | minute => some 60000000000
  | second => some 1000000000
  | millisecond => some 1000000
  | microsecond => some 1000
  | nanosecond => some 1

/-- The clock units, largest first. -/
def clock : List TimeUnit :=
  [hour, minute, second, millisecond, microsecond, nanosecond]

/-- The units that may carry a fraction. -/
def allowsFraction (unit : TimeUnit) : Bool :=
  hour.rank ≤ unit.rank && unit.rank < nanosecond.rank

end TimeUnit

/-- An amount of time, unit by unit. -/
structure Span where
  amount : TimeUnit → Nat

namespace Span

def zero : Span := ⟨fun _ => 0⟩

/-- Replace the amount of a unit. -/
def set (span : Span) (unit : TimeUnit) (n : Nat) : Span :=
  ⟨fun u => if u = unit then n else span.amount u⟩

/-- Spread nanoseconds over clock units, filling each up to its limit. -/
def spread (span : Span) : List TimeUnit → (nanos : Nat) → Option Span
  | [], nanos => if nanos = 0 then some span else none
  | unit :: smaller, nanos =>
    if nanos = 0 then some span
    else
      let size := unit.nanos?.getD 1
      let n := min (nanos / size) unit.limit
      spread (span.set unit n) smaller (nanos - n * size)

/-- Set a clock unit to an amount and billionths of the unit, from that unit on downwards. -/
def setFraction (span : Span) (unit : TimeUnit) (n billionths : Nat) : Option Span :=
  let size := unit.nanos?.getD 1
  spread span (TimeUnit.clock.filter fun u => unit.rank ≤ u.rank)
    (n * size + billionths * size / 1000000000)

/-- Set a unit to an amount. Amounts are 63-bit numbers. -/
def setAmount (span : Span) (unit : TimeUnit) (n : Nat) : Option Span :=
  if n = 0 then some span
  else if Nat.pow 2 63 ≤ n then none
  else if n ≤ unit.limit then some (span.set unit n)
  else if unit ∈ TimeUnit.clock ∧ unit ≠ .nanosecond then span.setFraction unit n 0
  else none

/-- The length of a span, when it counts neither years nor months. -/
def nanos? (span : Span) : Option Nat :=
  if span.amount .year = 0 ∧ span.amount .month = 0 then
    some
      (((TimeUnit.week :: .day :: TimeUnit.clock).map fun unit =>
        span.amount unit * unit.nanos?.getD 0).foldr (· + ·) 0)
  else none

end Span

end DnsHealth
