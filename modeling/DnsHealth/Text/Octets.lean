import DnsHealth.Bytes

/-!
# Octets as text

The two ways in which a zone file writes octets that have no structure of their own.

* Base64 has the standard alphabet with padding: three octets become four digits, and a last group
  of one or two octets is filled up with `=`.
* The character strings of TXT and SPF records stand in quotes. A quote and a backslash follow a
  backslash, every other printable ASCII character stands for itself, and any other octet is a
  backslash and three decimal digits. Strings are separated by one space.
-/

namespace DnsHealth.Text

/-! ## Base64 -/

/-- The digit of a number below 64. -/
def base64Digit (n : Nat) : Char :=
  if n < 26 then Char.ofNat (65 + n)
  else if n < 52 then Char.ofNat (71 + n)
  else if n < 62 then Char.ofNat (n - 4)
  else if n = 62 then '+'
  else '/'

/-- The digits of a byte string. -/
def base64Digits : Bytes → List Char
  | [] => []
  | [a] =>
    [base64Digit (a.toNat / 4), base64Digit (a.toNat % 4 * 16), '=', '=']
  | [a, b] =>
    [base64Digit (a.toNat / 4), base64Digit (a.toNat % 4 * 16 + b.toNat / 16),
      base64Digit (b.toNat % 16 * 4), '=']
  | a :: b :: c :: rest =>
    base64Digit (a.toNat / 4) :: base64Digit (a.toNat % 4 * 16 + b.toNat / 16) ::
      base64Digit (b.toNat % 16 * 4 + c.toNat / 64) :: base64Digit (c.toNat % 64) ::
      base64Digits rest

/-- The Base64 text of a byte string. -/
def base64 (bytes : Bytes) : String :=
  String.ofList (base64Digits bytes)

/-! ## Character strings -/

/-- The decimal digit of a number below ten. -/
def decimalDigit (n : Nat) : Char :=
  Char.ofNat (48 + n)

/-- An octet inside quotes. -/
def quotedOctet (b : UInt8) : List Char :=
  if b = 34 ∨ b = 92 then ['\\', Char.ofNat b.toNat]
  else if 32 ≤ b ∧ b ≤ 126 then [Char.ofNat b.toNat]
  else
    ['\\', decimalDigit (b.toNat / 100), decimalDigit (b.toNat / 10 % 10),
      decimalDigit (b.toNat % 10)]

/-- A string in quotes. -/
def quoted (bytes : Bytes) : List Char :=
  '"' :: bytes.flatMap quotedOctet ++ ['"']

/-- Strings in quotes, separated by spaces. -/
def quotedStrings (strings : List Bytes) : List Char :=
  [' '].intercalate (strings.map quoted)

end DnsHealth.Text
