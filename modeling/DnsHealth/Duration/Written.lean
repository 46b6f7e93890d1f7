import DnsHealth.Duration.Span
import DnsHealth.Text.Characters

/-!
# Written durations

How a timeout may be written: a bare number of seconds, units with labels (`1m30s`,
`2 days, 1 hour`, `1.5s`, `1d 01:02:03`), or the ISO 8601 form (`PT1M30S`).

All forms give amounts of units from the largest to the smallest, none twice. Only the last amount
may have a fraction, of one to nine digits behind a point or a comma, and only in hours and smaller
units. A sign may stand in front, or the word `ago` behind labelled units; a negative duration is
refused unless it is zero.
-/

namespace DnsHealth

namespace Duration

/-- What was read: amounts from the largest unit to the smallest, and billionths of the last one. -/
structure Written where
  /-- The amounts, smallest unit first. -/
  amounts : List (TimeUnit × Nat) := []
  fraction : Option Nat := none
  negative : Bool := false
  deriving Repr

namespace Written

/-- The smallest unit so far. -/
def smallest? (w : Written) : Option TimeUnit :=
  w.amounts.head?.map Prod.fst

/-- Add an amount of a smaller unit. -/
def add? (w : Written) (unit : TimeUnit) (n : Nat) : Option Written :=
  if (w.smallest?.map fun last => decide (last.rank < unit.rank)).getD true then
    some { w with amounts := (unit, n) :: w.amounts }
  else none

/-- Add a fraction to the last amount. -/
def addFraction? (w : Written) (fraction : Nat) : Option Written :=
  if (w.smallest?.map TimeUnit.allowsFraction).getD false then
    some { w with fraction := some fraction }
  else none

/-- The span of the amounts. -/
def span? (w : Written) : Option Span := do
  let span ← w.amounts.reverse.foldlM (fun span (unit, n) => span.setAmount unit n) Span.zero
  match w.fraction, w.amounts with
  | some billionths, (unit, n) :: _ =>
    if Nat.pow 2 63 ≤ n then none else span.setFraction unit n billionths
  | none, _ :: _ => some span
  | _, [] => none

/-- The duration, when it has one that is not negative. -/
def duration? (w : Written) : Option Duration := do
  let nanos ← (← w.span?).nanos?
  if w.negative ∧ nanos ≠ 0 then none else some ⟨nanos⟩

end Written

/-! ## Parts -/

/-- A character that may separate the parts. -/
def isGap (c : Char) : Bool :=
  c == ' ' || c == '\t' || c == '\n' || c == '\r' || c.toNat == 12

def skipGaps (cs : List Char) : List Char :=
  cs.dropWhile isGap

/-- The most digits of a number. -/
def maxDigits : Nat := 21

/-- A number, if the text begins with one; a number that does not fit 64 bits is refused. -/
def number? (cs : List Char) : Option (Option Nat × List Char) :=
  let digits := (cs.takeWhile Char.isDigit).take maxDigits
  match Text.decimal? digits with
  | none => some (none, cs)
  | some n => if n < UInt64.size then some (some n, cs.drop digits.length) else none

/-- A fraction in billionths, if the text goes on with a point or comma; digits must follow it. -/
def fraction? (cs : List Char) : Option (Option Nat × List Char) :=
  match cs with
  | '.' :: rest | ',' :: rest =>
    let digits := (rest.takeWhile Char.isDigit).take 9
    (Text.decimal? digits).map fun n =>
      (some (n * Nat.pow 10 (9 - digits.length)), rest.drop digits.length)
  | _ => some (none, cs)

/-- The labels of the units, longer ones in front of those that begin alike. -/
def labels : List (String × TimeUnit) :=
  [("years", .year), ("year", .year), ("yrs", .year), ("yr", .year), ("y", .year),
    ("months", .month), ("month", .month), ("mos", .month), ("mo", .month),
    ("weeks", .week), ("week", .week), ("wks", .week), ("wk", .week), ("w", .week),
    ("days", .day), ("day", .day), ("d", .day),
    ("hours", .hour), ("hour", .hour), ("hrs", .hour), ("hr", .hour), ("h", .hour),
    ("minutes", .minute), ("minute", .minute), ("mins", .minute), ("min", .minute),
    ("milliseconds", .millisecond), ("millisecond", .millisecond), ("millis", .millisecond),
    ("milli", .millisecond), ("msecs", .millisecond), ("msec", .millisecond), ("ms", .millisecond),
    ("microseconds", .microsecond), ("microsecond", .microsecond), ("micros", .microsecond),
    ("micro", .microsecond), ("usecs", .microsecond), ("usec", .microsecond), ("us", .microsecond),
    ("µsecs", .microsecond), ("µsec", .microsecond), ("µs", .microsecond),
    ("μsecs", .microsecond), ("μsec", .microsecond), ("μs", .microsecond),
    ("m", .minute),
    ("nanoseconds", .nanosecond), ("nanosecond", .nanosecond), ("nanos", .nanosecond),
    ("nano", .nanosecond), ("nsecs", .nanosecond), ("nsec", .nanosecond), ("ns", .nanosecond),
    ("seconds", .second), ("second", .second), ("secs", .second), ("sec", .second), ("s", .second)]

/-- The unit whose label begins the text. -/
def label? (cs : List Char) : Option (TimeUnit × List Char) :=
  (labels.find? fun (label, _) => label.toList.isPrefixOf cs).map fun (label, unit) =>
    (unit, cs.drop label.length)

/-- Whether a comma follows a label; then a gap must follow the comma. -/
def comma? (cs : List Char) : Option (Bool × List Char) :=
  match cs with
  | ',' :: c :: rest => if isGap c then some (true, rest) else none
  | [','] => none
  | _ => some (false, cs)

/-- An optional sign. -/
def sign (cs : List Char) : Option Bool × List Char :=
  match cs with
  | '+' :: rest => (some false, rest)
  | '-' :: rest => (some true, rest)
  | _ => (none, cs)

/-! ## Labelled units -/

/-- The rest of a time on the clock, behind its hours: minutes and seconds behind colons. -/
def clock? (w : Written) (hours : Nat) (cs : List Char) : Option (Written × List Char) := do
  let (minutes, cs) ← number? cs
  match cs with
  | ':' :: cs =>
    let (seconds, cs) ← number? cs
    let (fraction, cs) ← fraction? cs
    let w ← w.add? .hour hours
    let w ← w.add? .minute (← minutes)
    let w ← w.add? .second (← seconds)
    match fraction with
    | some f => pure (← w.addFraction? f, cs)
    | none => pure (w, cs)
  | _ => none

/-- Amounts with labels, the first of which has been read up to its number. Behind a comma another
amount must follow. Since units get smaller, no more amounts follow than there are units. -/
def labelled? : (left : Nat) → Written → Nat → List Char → Option (Written × List Char)
  | 0, _, _, _ => none
  | left + 1, w, n, cs =>
    match cs with
    | ':' :: cs => clock? w n cs
    | _ => do
      let (fraction, cs) ← fraction? cs
      let (unit, cs) ← label? (skipGaps cs)
      let (comma, cs) ← comma? cs
      let w ← w.add? unit n
      match fraction with
      | some f => if comma then none else pure (← w.addFraction? f, cs)
      | none =>
        match ← number? (skipGaps cs) with
        | (some next, cs) => labelled? left w next cs
        | (none, _) => if comma then none else pure (w, cs)

/-- The end of labelled units: nothing, or the word `ago` where no sign stands in front. -/
def direction? (front : Option Bool) (cs : List Char) : Option Bool :=
  match cs with
  | [] => some (front.getD false)
  | c :: _ =>
    if isGap c then
      match front, skipGaps cs with
      | none, ['a', 'g', 'o'] => some true
      | _, [] => some (front.getD false)
      | _, _ => none
    else none

/-- Labelled units, or a time on the clock. -/
def ofLabels? (cs : List Char) : Option Written := do
  let (front, cs) := sign cs
  let (n, cs) ← number? cs
  let (w, cs) ← labelled? (TimeUnit.nanosecond.rank + 2) {} (← n) cs
  let negative ← direction? front cs
  pure { w with negative }

/-! ## ISO 8601 -/

/-- The designators of the calendar units. -/
def calendarUnit? : Char → Option TimeUnit
  | 'Y' | 'y' => some .year
  | 'M' | 'm' => some .month
  | 'W' | 'w' => some .week
  | 'D' | 'd' => some .day
  | _ => none

/-- The designators of the clock units. -/
def clockUnit? : Char → Option TimeUnit
  | 'H' | 'h' => some .hour
  | 'M' | 'm' => some .minute
  | 'S' | 's' => some .second
  | _ => none

/-- Amounts with designators; a fraction ends them. -/
def designated? (unit? : Char → Option TimeUnit) (fractions : Bool) :
    (left : Nat) → Written → List Char → Option (Written × List Char)
  | 0, _, _ => none
  | left + 1, w, cs => do
    match ← number? cs with
    | (none, _) => pure (w, cs)
    | (some n, cs) =>
      let (fraction, cs) ← if fractions then fraction? cs else some (none, cs)
      match cs with
      | c :: cs =>
        let w ← w.add? (← unit? c) n
        match fraction with
        | some f => pure (← w.addFraction? f, cs)
        | none => designated? unit? fractions left w cs
      | [] => none

/-- The ISO 8601 form: calendar units, then clock units behind a `T`, if there are any. -/
def ofIso? (cs : List Char) : Option Written := do
  let (front, cs) := sign cs
  let cs := cs.drop 1
  let (w, cs) ← designated? calendarUnit? false (TimeUnit.day.rank + 2) {} cs
  let w := { w with negative := front.getD false }
  match cs with
  | [] => some w
  | c :: cs =>
    if c = 'T' ∨ c = 't' then
      let (w, cs) ← designated? clockUnit? true 4 w cs
      if cs = [] ∧ (w.smallest?.map fun u => decide (TimeUnit.hour.rank ≤ u.rank)).getD false then
        some w
      else none
    else none

/-- Read a duration, blanks around it aside. -/
def ofText? (text : String) : Option Duration :=
  let cs := Text.trimChars text.toList
  match (Text.unsigned? cs).filter (· < UInt64.size) with
  | some n => some (ofSeconds n)
  | none =>
    let written :=
      match (sign cs).2 with
      | 'P' :: _ | 'p' :: _ => ofIso? cs
      | _ => ofLabels? cs
    written.bind Written.duration?

end Duration

end DnsHealth
