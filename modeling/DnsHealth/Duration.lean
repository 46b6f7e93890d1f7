/-!
# Durations

Lengths of time as whole nanoseconds, and the text in which a report shows them: in the largest of
seconds, milliseconds, microseconds and nanoseconds that is not zero, with as many decimals as are
needed.
-/

namespace DnsHealth

/-- A length of time. -/
structure Duration where
  nanos : Nat
  deriving DecidableEq, Repr, Inhabited

namespace Duration

def zero : Duration := ⟨0⟩

def ofSeconds (n : Nat) : Duration := ⟨n * 1000000000⟩

/-- Whole seconds. -/
def seconds (d : Duration) : Nat := d.nanos / 1000000000

/-- The nanoseconds beyond the whole seconds. -/
def subsecNanos (d : Duration) : Nat := d.nanos % 1000000000

/-- Whole milliseconds. -/
def millis (d : Duration) : Nat := d.nanos / 1000000

/-- The decimals of a fraction of `10 ^ places`, with a point in front and no zero at the end. -/
def decimals (places fraction : Nat) : String :=
  if fraction = 0 then ""
  else
    let digits := Nat.toDigits 10 fraction
    let padded := List.replicate (places - digits.length) '0' ++ digits
    String.ofList ('.' :: (padded.reverse.dropWhile (· == '0')).reverse)

/-- A number of units of `10 ^ places` nanoseconds. -/
def inUnits (places nanos : Nat) (suffix : String) : String :=
  let unit := Nat.pow 10 places
  toString (nanos / unit) ++ decimals places (nanos % unit) ++ suffix

/-- The text of a duration. -/
def text (d : Duration) : String :=
  if 1000000000 ≤ d.nanos then inUnits 9 d.nanos "s"
  else if 1000000 ≤ d.nanos then inUnits 6 d.nanos "ms"
  else if 1000 ≤ d.nanos then inUnits 3 d.nanos "µs"
  else inUnits 0 d.nanos "ns"

end Duration

end DnsHealth
