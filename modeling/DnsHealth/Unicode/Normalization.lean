import Std.Data.HashMap
import DnsHealth.Unicode.CanonicalData

/-!
# Canonical composition

Normalisation form C: characters are decomposed as far as they go, combining marks are put in the
order of their classes, and what can be composed is composed again. Hangul syllables decompose and
compose by arithmetic on the indices of their letters.
-/

namespace DnsHealth.Unicode

/-! ## Hangul syllables -/

namespace Hangul

def syllableBase : Nat := 0xAC00
def leadBase : Nat := 0x1100
def vowelBase : Nat := 0x1161
def tailBase : Nat := 0x11A7
def leadCount : Nat := 19
def vowelCount : Nat := 21
def tailCount : Nat := 28

/-- The letters of a syllable. -/
def letters? (c : Char) : Option (List Char) :=
  let index := c.toNat - syllableBase
  if syllableBase ≤ c.toNat ∧ index < leadCount * vowelCount * tailCount then
    let lead := Char.ofNat (leadBase + index / (vowelCount * tailCount))
    let vowel := Char.ofNat (vowelBase + index / tailCount % vowelCount)
    let tail := index % tailCount
    some (if tail = 0 then [lead, vowel] else [lead, vowel, Char.ofNat (tailBase + tail)])
  else none

/-- The syllable of a leading letter and a vowel, or of such a syllable and a trailing letter. -/
def compose? (a b : Char) : Option Char :=
  let lead := a.toNat - leadBase
  let vowel := b.toNat - vowelBase
  let index := a.toNat - syllableBase
  let tail := b.toNat - tailBase
  if leadBase ≤ a.toNat ∧ lead < leadCount ∧ vowelBase ≤ b.toNat ∧ vowel < vowelCount then
    some (Char.ofNat (syllableBase + (lead * vowelCount + vowel) * tailCount))
  else if syllableBase ≤ a.toNat ∧ index < leadCount * vowelCount * tailCount ∧
      index % tailCount = 0 ∧ tailBase < b.toNat ∧ tail < tailCount then
    some (Char.ofNat (a.toNat + tail))
  else none

end Hangul

/-! ## Decomposition -/

/-- No chain of decompositions is longer. -/
def decompositionDepth : Nat := 4

/-- The decomposition of a character in at most `depth` steps. -/
def decompose : (depth : Nat) → Char → List Char
  | 0, c => [c]
  | depth + 1, c =>
    match Hangul.letters? c with
    | some letters => letters
    | none =>
      match decomposition? c with
      | some target => target.flatMap (decompose depth)
      | none => [c]

/-- Put a character in front of ordered ones, moving a mark behind marks of lower class. -/
def insertOrdered (c : Char) : List Char → List Char
  | [] => [c]
  | d :: rest =>
    if 0 < combiningClass d ∧ combiningClass d < combiningClass c then
      d :: insertOrdered c rest
    else c :: d :: rest

/-- The full decomposition with ordered marks. -/
def canonicalDecomposition (cs : List Char) : List Char :=
  (cs.flatMap (decompose decompositionDepth)).foldr insertOrdered []

/-! ## Composition -/

/-- The composite of each pair that composes, by the code points. -/
def pairs : Std.HashMap (Nat × Nat) Char :=
  composites.spans.foldl
    (fun map (first, _, rule) =>
      match rule with
      | .sequence [a, b] => map.insert (a.toNat, b.toNat) (Char.ofNat first)
      | _ => map)
    ∅

/-- The composite of two characters, if they compose. -/
def composite? (a b : Char) : Option Char :=
  match Hangul.compose? a b with
  | some c => some c
  | none => pairs[(a.toNat, b.toNat)]?

/-- Compose what follows a starter. `held` are the marks that stayed behind it, last one first, and
`last` is the class of the last one; a mark of the same class or a lower one cannot pass it. -/
def composeFrom (starter : Char) (held : List Char) (last : Nat) : List Char → List Char
  | [] => starter :: held.reverse
  | c :: rest =>
    let cls := combiningClass c
    match if held.isEmpty || last < cls then composite? starter c else none with
    | some composed => composeFrom composed held last rest
    | none =>
      if cls = 0 then starter :: (held.reverse ++ composeFrom c [] 0 rest)
      else composeFrom starter (c :: held) cls rest

/-- Compose a decomposed text. Marks in front of the first starter stay. -/
def compose : List Char → List Char
  | [] => []
  | c :: rest =>
    if combiningClass c = 0 then composeFrom c [] 0 rest else c :: compose rest

/-- Normalisation form C. -/
def normalize (cs : List Char) : List Char :=
  if cs.all fun c => c.toNat < 128 then cs else compose (canonicalDecomposition cs)

end DnsHealth.Unicode
