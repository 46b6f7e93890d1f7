import DnsHealth.Text.Characters

/-!
# TOML numbers

Integers are decimal, hexadecimal, octal or binary and have 64 bits with sign; only decimal ones
carry a sign, and these have no leading zeros. A float has a fraction, an exponent or both, or is
`inf` or `nan`; one that would round to infinity is refused. Between two digits of any number there
may stand one underscore.
-/

namespace DnsHealth.Toml

/-- Digits up to the first other character, behind those already read; an underscore must be
followed by a digit. -/
def digitsOnto (isDigit : Char → Bool) (done : List Char) :
    List Char → Option (List Char × List Char)
  | '_' :: c :: rest => if isDigit c then digitsOnto isDigit (c :: done) rest else none
  | '_' :: [] => none
  | c :: rest =>
    if isDigit c then digitsOnto isDigit (c :: done) rest else some (done.reverse, c :: rest)
  | [] => some (done.reverse, [])

/-- One digit or more, with underscores between them. -/
def digits? (isDigit : Char → Bool) : List Char → Option (List Char × List Char)
  | c :: rest => if isDigit c then digitsOnto isDigit [c] rest else none
  | [] => none

/-- An optional sign; whether it is a minus. -/
def sign : List Char → Bool × List Char
  | '-' :: rest => (true, rest)
  | '+' :: rest => (false, rest)
  | cs => (false, cs)

/-- Decimal digits without leading zeros. -/
def wholeDigits? : List Char → Option (List Char × List Char)
  | '0' :: rest => some (['0'], rest)
  | cs => digits? Char.isDigit cs

/-! ## Integers -/

/-- An integer that has 64 bits. -/
def word? (n : Int) : Option Int :=
  if Int64.minValue.toInt ≤ n ∧ n ≤ Int64.maxValue.toInt then some n else none

/-- An unsigned integer in a base, behind its mark. -/
def integerIn? (base : Nat) (cs : List Char) : Option (Int × List Char) := do
  let (digits, rest) ← digits? (fun c => (Text.digitValue? base c).isSome) cs
  let n ← word? (← Text.number? base digits)
  pure (n, rest)

def integer? (cs : List Char) : Option (Int × List Char) :=
  match cs with
  | '0' :: 'x' :: rest => integerIn? 16 rest
  | '0' :: 'o' :: rest => integerIn? 8 rest
  | '0' :: 'b' :: rest => integerIn? 2 rest
  | _ => do
    let (negative, cs) := sign cs
    let (digits, rest) ← wholeDigits? cs
    let n ← Text.decimal? digits
    let n ← word? (if negative then -(n : Int) else n)
    pure (n, rest)

/-! ## Floats -/

/-- The least number that rounds to infinity: half a unit above the largest double. -/
def infinityBound : Nat := (Nat.pow 2 54 - 1) * Nat.pow 2 970

/-- The decimal `n · 10 ^ (exponent - places)` rounds to infinity. Past four hundred digits before
the point there is no need to look closer. -/
def overflows (n places : Nat) (exponent : Int) : Bool :=
  let shift := exponent - places
  if n = 0 then false
  else if 400 < shift + (Nat.toDigits 10 n).length then true
  else if 0 ≤ shift then infinityBound ≤ n * Nat.pow 10 shift.toNat
  else if shift + (Nat.toDigits 10 n).length < 300 then false
  else infinityBound * Nat.pow 10 (-shift).toNat ≤ n

/-- A fraction with its point: its digits. -/
def fraction? : List Char → Option (List Char × List Char)
  | '.' :: rest => digits? Char.isDigit rest
  | _ => none

/-- An exponent with its letter. -/
def exponent? : List Char → Option (Int × List Char)
  | c :: cs =>
    if c = 'e' ∨ c = 'E' then do
      let (negative, cs) := sign cs
      let (digits, rest) ← digits? Char.isDigit cs
      let n ← Text.decimal? digits
      pure (if negative then -(n : Int) else n, rest)
    else none
  | [] => none

/-- What follows an infinity or a number that is none. -/
def special? (cs : List Char) : Option (List Char) :=
  match (sign cs).2 with
  | 'i' :: 'n' :: 'f' :: rest => some rest
  | 'n' :: 'a' :: 'n' :: rest => some rest
  | _ => none

/-- What follows a float written with digits. -/
def decimalFloat? (cs : List Char) : Option (List Char) := do
  let (negative, cs) := sign cs
  let (whole, cs) ← wholeDigits? cs
  let (places, exponent, rest) ←
    match fraction? cs with
    | some (places, cs) =>
      match exponent? cs with
      | some (exponent, rest) => some (places, exponent, rest)
      | none => some (places, 0, cs)
    | none => (exponent? cs).map fun (exponent, rest) => ([], exponent, rest)
  let n ← Text.decimal? (whole ++ places)
  if overflows n places.length exponent ∧ negative = false then none else some rest

/-- What follows a float. -/
def float? (cs : List Char) : Option (List Char) :=
  (decimalFloat? cs).or (special? cs)

end DnsHealth.Toml
