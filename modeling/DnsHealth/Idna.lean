import DnsHealth.Idna.Label
import DnsHealth.Idna.Punycode
import DnsHealth.Unicode.HostMapping

/-!
# Internationalised host names

The ASCII form of a host name by UTS #46, in its strict and non-transitional variant: the name is
mapped and normalised, its labels are decoded where they are already encoded and held to the rules,
and those that are not ASCII are encoded. The outcome must fit into a domain name.

Every violated rule has the same effect, no ASCII form, so the rules are checked in any order.
-/

namespace DnsHealth.Idna

open Unicode

/-- Map the characters of a name; a disallowed one leaves nothing. -/
def mapChars : List Char → Option (List Char)
  | [] => some []
  | c :: rest => do
    let mapped ← mapChars rest
    match hostStatus c with
    | .kept => pure (c :: mapped)
    | .mapped target => pure (target ++ mapped)
    | .ignored => pure mapped
    | .disallowed => none

/-- The mark of an encoded label. -/
def encodedMark : List Char := ['x', 'n', '-', '-']

def isAscii (label : List Char) : Bool :=
  label.all fun c => c.toNat < 128

/-- The characters of a label that carries the mark of an encoded one. They must be in the form that
mapping and normalisation would give them, and not all ASCII. -/
def decodeLabel? (digits : List Char) : Option (List Char) := do
  if isAscii digits = false ∨ digits.isEmpty ∨ digits.getLast? = some '-' then none
  else
    let label ← Punycode.decode? digits
    if isAscii label then none
    else if (label.all fun c => hostStatus c = .kept) ∧ normalize label = label then some label
    else none

/-- The characters that a label stands for. -/
def unicodeLabel? (label : List Char) : Option (List Char) :=
  if encodedMark.isPrefixOf label then decodeLabel? (label.drop encodedMark.length)
  else some label

/-- The rules for a label by itself. -/
def labelOk (label : List Char) : Bool :=
  hyphensOk label && startOk label && asciiOk label && joinersOk [] label

/-- The ASCII form of a label. -/
def asciiLabel (label : List Char) : List Char :=
  if isAscii label then label else encodedMark ++ Punycode.encode label

/-- Labels of 1 to 63 characters that make at most 253 with the dots between them. -/
def lengthsOk (labels : List (List Char)) : Bool :=
  labels.all (fun label => 1 ≤ label.length && label.length ≤ 63) &&
    (labels.map fun label => label.length + 1).foldr (· + ·) 0 ≤ 254

/-- The ASCII form of a host name, if it has one. -/
def toAscii (name : String) : Option String := do
  let mapped ← mapChars name.toList
  let labels ← ((normalize mapped).splitOn '.').mapM unicodeLabel?
  if labels.all labelOk then
    if !(labels.any (·.any isRightToLeft)) || labels.all directionOk then
      let ascii := labels.map asciiLabel
      if lengthsOk ascii then some (String.ofList (['.'].intercalate ascii)) else none
    else none
  else none

end DnsHealth.Idna
