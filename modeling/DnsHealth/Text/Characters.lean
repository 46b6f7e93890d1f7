/-!
# Characters

What single characters mean in settings, names and numbers: which of them are blank, how a text is
cut at its ends and brought to small letters, and what its digits say.

Blank is the Unicode property `White_Space`. A reader of numbers answers `none` on an empty list and
on any character that is not a digit of its base; limits on the value are the caller's.
-/

namespace DnsHealth.Text

/-! ## Blanks, dots and letters -/

/-- The Unicode property `White_Space`. -/
def isBlank (c : Char) : Bool :=
  let n := c.toNat
  (9 ≤ n && n ≤ 13) || n == 0x20 || n == 0x85 || n == 0xA0 || n == 0x1680 ||
    (0x2000 ≤ n && n ≤ 0x200A) || n == 0x2028 || n == 0x2029 || n == 0x202F || n == 0x205F ||
    n == 0x3000

/-- A character list without the blanks at its two ends. -/
def trimChars (cs : List Char) : List Char :=
  ((cs.dropWhile isBlank).reverse.dropWhile isBlank).reverse

/-- A text without the blanks at its two ends. -/
def trim (text : String) : String :=
  String.ofList (trimChars text.toList)

/-- A character list without one final dot, if it ends in one. -/
def dropFinalDot (cs : List Char) : List Char :=
  if cs.getLast? = some '.' then cs.dropLast else cs

/-- An ASCII capital letter becomes its small letter; every other character stays. -/
def lowerAscii (text : String) : String :=
  String.ofList (text.toList.map Char.toLower)

/-! ## Digits -/

/-- The value of a hexadecimal digit of either case. -/
def hexValue? (c : Char) : Option Nat :=
  if '0' ≤ c ∧ c ≤ '9' then some (c.toNat - 48)
  else if 'a' ≤ c ∧ c ≤ 'f' then some (c.toNat - 87)
  else if 'A' ≤ c ∧ c ≤ 'F' then some (c.toNat - 55)
  else none

/-- The value of a digit of the given base, at most sixteen. -/
def digitValue? (base : Nat) (c : Char) : Option Nat :=
  (hexValue? c).filter (· < base)

/-- The digits of a base, continuing a number already begun. -/
def numberFrom? (base : Nat) : Nat → List Char → Option Nat
  | n, [] => some n
  | n, c :: cs =>
    match digitValue? base c with
    | some d => numberFrom? base (n * base + d) cs
    | none => none

/-- The number written by a non-empty list of digits. -/
def number? (base : Nat) : List Char → Option Nat
  | [] => none
  | cs => numberFrom? base 0 cs

/-- The number written by a non-empty list of decimal digits. -/
def decimal? (cs : List Char) : Option Nat :=
  number? 10 cs

/-- A decimal number behind an optional plus sign. -/
def unsigned? : List Char → Option Nat
  | '+' :: cs => decimal? cs
  | cs => decimal? cs

/-- A decimal number behind an optional sign. -/
def signed? : List Char → Option Int
  | '-' :: cs => (decimal? cs).map fun n => -(n : Int)
  | cs => (unsigned? cs).map fun n => (n : Int)

end DnsHealth.Text
