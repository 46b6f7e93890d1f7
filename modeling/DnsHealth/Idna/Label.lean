import DnsHealth.Unicode.BidiClass
import DnsHealth.Unicode.JoiningType
import DnsHealth.Unicode.Normalization

/-!
# Rules for labels

The conditions on the characters of a single label of an internationalised host name, apart from the
mapping: hyphens, the first character, ASCII characters, joiners in their context (RFC 5892), and
the rule for labels of a name that is written from right to left anywhere (RFC 5893).
-/

namespace DnsHealth.Idna

open Unicode

/-! ## Hyphens and ASCII -/

/-- No hyphen at either end, and none at both the third and the fourth place. -/
def hyphensOk (label : List Char) : Bool :=
  label.head? != some '-' && label.getLast? != some '-' &&
    !(label[2]? == some '-' && label[3]? == some '-')

/-- An ASCII character of a host name: a small letter, a digit or a hyphen. -/
def isHostAscii (c : Char) : Bool :=
  ('a' ≤ c && c ≤ 'z') || ('0' ≤ c && c ≤ '9') || c == '-'

/-- Every ASCII character is one of a host name. -/
def asciiOk (label : List Char) : Bool :=
  label.all fun c => 128 ≤ c.toNat || isHostAscii c

/-- The label does not begin with a combining mark. -/
def startOk (label : List Char) : Bool :=
  (label.head?.map fun c => !isMark c).getD true

/-! ## Joiners -/

/-- The combining class of a virama. -/
def viramaClass : Nat := 9

/-- The first character that is not transparent has one of the given joining types. -/
def joinsTo (types : List JoiningType) (cs : List Char) : Bool :=
  ((cs.dropWhile fun c => joiningType c == .transparent).head?.map fun c =>
    types.contains (joiningType c)).getD false

/-- A joiner may follow a virama; a zero width non-joiner may also stand between characters that
would join across it. `before` is what stands in front, nearest first. -/
def joinersOk (before : List Char) : List Char → Bool
  | [] => true
  | c :: rest =>
    let here :=
      if c.toNat = 0x200C ∨ c.toNat = 0x200D then
        (before.head?.map fun p => combiningClass p == viramaClass).getD false ||
          (c.toNat == 0x200C && joinsTo [.left, .dual] before && joinsTo [.right, .dual] rest)
      else true
    here && joinersOk (c :: before) rest

/-! ## Directions -/

/-- The character makes its name a bidirectional one. -/
def isRightToLeft (c : Char) : Bool :=
  [BidiClass.r, .al, .an].contains (bidiClass c)

/-- Classes that a right-to-left label may hold. -/
def rightToLeftClasses : List BidiClass :=
  [.r, .al, .an, .en, .es, .cs, .et, .on, .bn, .nsm]

/-- Classes that a left-to-right label may hold. -/
def leftToRightClasses : List BidiClass :=
  [.l, .en, .es, .cs, .et, .on, .bn, .nsm]

/-- The last class of a label before its final nonspacing marks. -/
def lastClass? (classes : List BidiClass) : Option BidiClass :=
  (classes.reverse.dropWhile (· == .nsm)).head?

/-- The rule for labels of a bidirectional name. The first character decides the direction; the
direction restricts the other characters and the last one, and a right-to-left label does not mix
European with Arabic numbers. -/
def directionOk (label : List Char) : Bool :=
  let classes := label.map bidiClass
  match classes with
  | [] => true
  | first :: _ =>
    if first = .l then
      classes.all leftToRightClasses.contains &&
        ((lastClass? classes).map [BidiClass.l, .en].contains).getD false
    else if first = .r ∨ first = .al then
      classes.all rightToLeftClasses.contains &&
        ((lastClass? classes).map [BidiClass.r, .al, .en, .an].contains).getD false &&
        !(classes.contains .en && classes.contains .an)
    else false

end DnsHealth.Idna
