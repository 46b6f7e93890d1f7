import DnsHealth.Text.Characters

/-!
# Tables of character properties

A property is written as text, in the manner of the Unicode character database, and read once into
an array of disjoint ascending spans, which is searched by halving. Entries are separated by blanks
and code points are hexadecimal:

* `A` or `A-B` is a character or a range of characters;
* `A-B:V` gives the range the value `V`;
* `A=T.U` maps a character to a sequence, `A-B+D` and `A-B~D` move a range up or down by `D`, and a
  colon in front of the sign moves only every second character of the range.

Entries of any other form are left out.
-/

namespace DnsHealth.Unicode

/-- Disjoint spans of code points in ascending order, each with a value. -/
abbrev Spans (β : Type) := Array (Nat × Nat × β)

namespace Spans

variable {β : Type}

/-- The span among the entries from `low` up to `high` that holds a code point. -/
def search (spans : Spans β) (n low high : Nat) : Option (Nat × β) :=
  if low < high then
    let middle := (low + high) / 2
    match spans[middle]? with
    | some (first, last, value) =>
      if n < first then search spans n low middle
      else if last < n then search spans n (middle + 1) high
      else some (first, value)
    | none => none
  else none
termination_by high - low

/-- The start and the value of the span that holds a character. -/
def find? (spans : Spans β) (c : Char) : Option (Nat × β) :=
  search spans c.toNat 0 spans.size

end Spans

/-- The entries of a table. -/
def entries (text : String) : List (List Char) :=
  (text.toList.splitOnP Text.isBlank).filter (!·.isEmpty)

/-- A code point or a range of code points. -/
def range? (cs : List Char) : Option (Nat × Nat) :=
  match (cs.splitOn '-').mapM (Text.number? 16) with
  | some [n] => some (n, n)
  | some [first, last] => some (first, last)
  | _ => none

/-! ## Sets -/

/-- A set of characters. -/
structure RangeTable where
  spans : Spans Unit

namespace RangeTable

def ofText (text : String) : RangeTable :=
  ⟨((entries text).filterMap fun entry =>
      (range? entry).map fun (first, last) => (first, last, ())).toArray⟩

def contains (table : RangeTable) (c : Char) : Bool :=
  (table.spans.find? c).isSome

end RangeTable

/-! ## Numeric values -/

/-- Numbers of characters. -/
structure ClassTable where
  spans : Spans Nat

namespace ClassTable

def entry? (cs : List Char) : Option (Nat × Nat × Nat) :=
  match cs.splitOn ':' with
  | [chars, value] => do
    let (first, last) ← range? chars
    let value ← Text.number? 16 value
    pure (first, last, value)
  | _ => none

def ofText (text : String) : ClassTable :=
  ⟨((entries text).filterMap entry?).toArray⟩

def value? (table : ClassTable) (c : Char) : Option Nat :=
  (table.spans.find? c).map Prod.snd

end ClassTable

/-! ## Mappings -/

/-- What the characters of a span are mapped to. -/
inductive MappingRule where
  /-- All go to one sequence. -/
  | sequence (target : List Char)
  /-- Each one whose distance from the start is a multiple of `step` moves by `distance`. -/
  | move (step : Nat) (distance : Int)
  deriving Repr

/-- Mappings of characters to sequences. -/
structure MappingTable where
  spans : Spans MappingRule

namespace MappingTable

/-- The rule of a moved range, from its sign on. -/
def move? (step : Nat) : List Char → Option MappingRule
  | '+' :: digits => (Text.number? 16 digits).map fun n => .move step n
  | '~' :: digits => (Text.number? 16 digits).map fun n => .move step (-(n : Int))
  | _ => none

def entry? (cs : List Char) : Option (Nat × Nat × MappingRule) :=
  match cs.splitOn '=' with
  | [chars, target] => do
    let (first, last) ← range? chars
    let target ← (target.splitOn '.').mapM (Text.number? 16)
    pure (first, last, .sequence (target.map Char.ofNat))
  | _ =>
    let (chars, sign) := cs.span fun c => c != '+' && c != '~' && c != ':'
    match sign with
    | ':' :: sign => do
      let (first, last) ← range? chars
      pure (first, last, ← move? 2 sign)
    | sign => do
      let (first, last) ← range? chars
      pure (first, last, ← move? 1 sign)

def ofText (text : String) : MappingTable :=
  ⟨((entries text).filterMap entry?).toArray⟩

/-- What a character is mapped to, if it is mapped. -/
def target? (table : MappingTable) (c : Char) : Option (List Char) :=
  match table.spans.find? c with
  | some (_, .sequence target) => some target
  | some (first, .move step distance) =>
    if (c.toNat - first) % step = 0 then some [Char.ofNat ((c.toNat : Int) + distance).toNat]
    else none
  | none => none

end MappingTable

end DnsHealth.Unicode
