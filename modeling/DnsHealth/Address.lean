import DnsHealth.Bytes
import DnsHealth.Text.Characters

/-!
# IP addresses

Addresses of both families as their octets, with the text forms: dotted quads for IPv4, and for IPv6
the groups of RFC 5952, where the first longest run of at least two zero groups shrinks to `::` and
an IPv4-mapped address ends in a dotted quad.

Reading is strict. A decimal octet has no leading zero; a group has one to four digits; at most one
`::` stands for at least one group; a dotted quad may only stand at the very end.
-/

namespace DnsHealth

/-- The four octets of an IPv4 address. -/
abbrev Ipv4 := Vector UInt8 4

/-- The sixteen octets of an IPv6 address. -/
abbrev Ipv6 := Vector UInt8 16

/-- An address of either family. -/
inductive Address where
  | v4 (octets : Ipv4)
  | v6 (octets : Ipv6)
  deriving DecidableEq, Repr

/-! ## Writing -/

namespace Ipv4

/-- The dotted quad. -/
def text (address : Ipv4) : String :=
  ".".intercalate (address.toList.map fun octet => toString octet.toNat)

end Ipv4

namespace Ipv6

/-- The eight 16-bit groups. -/
def groups (address : Ipv6) : List Nat :=
  (List.range 8).map fun i =>
    (address[2 * i]?.getD 0).toNat * 256 + (address[2 * i + 1]?.getD 0).toNat

/-- The address with the given groups; missing groups are zero. -/
def ofGroups (groups : List Nat) : Ipv6 :=
  Vector.ofFn fun i =>
    let group := groups.getD (i.val / 2) 0
    UInt8.ofNat (if i.val % 2 = 0 then group / 256 else group)

/-- A group without leading zeros. -/
def groupText (group : Nat) : String :=
  String.ofList (Nat.toDigits 16 group)

/-- Groups between colons. -/
def groupsText (groups : List Nat) : String :=
  ":".intercalate (groups.map groupText)

/-- Start and length of the first longest run of zero groups. -/
def longestZeroRun (groups : List Nat) : Nat × Nat :=
  (List.range groups.length).foldl
    (fun best start =>
      let length := ((groups.drop start).takeWhile (· == 0)).length
      if best.2 < length then (start, length) else best)
    (0, 0)

/-- The IPv4 address of an IPv4-mapped address. -/
def mapped? (address : Ipv6) : Option Ipv4 :=
  if address.toList.take 12 = [0, 0, 0, 0, 0, 0, 0, 0, 0, 0, 255, 255] then
    some (Vector.ofFn fun i => address[12 + i.val])
  else none

/-- The RFC 5952 form. -/
def text (address : Ipv6) : String :=
  match mapped? address with
  | some inner => "::ffff:" ++ Ipv4.text inner
  | none =>
    let groups := groups address
    let (start, length) := longestZeroRun groups
    if 1 < length then
      groupsText (groups.take start) ++ "::" ++ groupsText (groups.drop (start + length))
    else groupsText groups

end Ipv6

/-- The text form of an address. -/
def Address.text : Address → String
  | .v4 address => Ipv4.text address
  | .v6 address => Ipv6.text address

/-- An address with a port; an IPv6 address stands in square brackets. -/
def Address.withPort (address : Address) (port : Nat) : String :=
  match address with
  | .v4 _ => s!"{address.text}:{port}"
  | .v6 _ => s!"[{address.text}]:{port}"

/-! ## Reading -/

namespace Ipv4

/-- An octet of a dotted quad: at most 255, with no leading zero. -/
def octet? (digits : List Char) : Option UInt8 :=
  match digits with
  | '0' :: _ :: _ => none
  | _ => ((Text.decimal? digits).filter (· < 256)).map UInt8.ofNat

/-- Read a dotted quad. -/
def ofChars? (cs : List Char) : Option Ipv4 :=
  match (cs.splitOn '.').mapM octet? with
  | some [a, b, c, d] => some #v[a, b, c, d]
  | _ => none

end Ipv4

namespace Ipv6

/-- A group of one to four hexadecimal digits. -/
def group? (digits : List Char) : Option Nat :=
  if digits.length ≤ 4 then Text.number? 16 digits else none

/-- The groups of colon-separated pieces. With `quad`, the last piece may be a dotted quad, which
counts as two groups. -/
def pieces? (quad : Bool) : List (List Char) → Option (List Nat)
  | [] => some []
  | [last] =>
    match group? last with
    | some group => some [group]
    | none =>
      if quad then
        (Ipv4.ofChars? last).map fun v =>
          [v[0].toNat * 256 + v[1].toNat, v[2].toNat * 256 + v[3].toNat]
      else none
  | piece :: rest => do
    let group ← group? piece
    let groups ← pieces? quad rest
    pure (group :: groups)

/-- The groups of a possibly empty colon-separated text. -/
def part? (quad : Bool) : List Char → Option (List Nat)
  | [] => some []
  | cs => pieces? quad (cs.splitOn ':')

/-- Cut a text at its first `::`. -/
def cutAtGap : List Char → Option (List Char × List Char)
  | [] => none
  | ':' :: ':' :: rest => some ([], rest)
  | c :: rest => (cutAtGap rest).map fun (before, after) => (c :: before, after)

/-- Read an IPv6 address. -/
def ofChars? (cs : List Char) : Option Ipv6 :=
  match cutAtGap cs with
  | some (before, after) => do
    let front ← part? false before
    let back ← part? true after
    if front.length + back.length ≤ 7 then
      pure (ofGroups (front ++ List.replicate (8 - front.length - back.length) 0 ++ back))
    else none
  | none => do
    let groups ← part? true cs
    if groups.length = 8 then pure (ofGroups groups) else none

end Ipv6

/-- Read an address of either family. -/
def Address.ofText? (text : String) : Option Address :=
  match Ipv4.ofChars? text.toList with
  | some address => some (.v4 address)
  | none => (Ipv6.ofChars? text.toList).map .v6

end DnsHealth
