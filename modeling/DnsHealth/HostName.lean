import DnsHealth.Text.Characters

/-!
# Host names

Checking the target of a probe, and the registrable domain below which a zone is delegated.

`HostName.validate?` takes the conversion to ASCII as a parameter. `HostName.registrable?` is not a
look-up in the list of public suffixes: it knows a fixed selection of suffixes with two labels, and
takes every other suffix to have one.
-/

namespace DnsHealth.HostName

/-- The most characters of a host name. -/
def maxLength : Nat := 253

/-- The ASCII form of a target without its final dot, if it is a host name. -/
def validate? (toAscii : String → Option String) (text : String) : Option String :=
  match Text.dropFinalDot (Text.trimChars text.toList) with
  | [] => none
  | body =>
    match toAscii (String.ofList body) with
    | some ascii => if ascii.isEmpty ∨ maxLength < ascii.utf8ByteSize then none else some ascii
    | none => none

/-- The suffixes of two labels. -/
def multiLabelSuffixes : List String :=
  ["co.uk", "co.jp", "co.kr", "co.za", "co.nz", "co.in", "co.il", "com.au", "com.br", "com.cn",
    "com.mx", "com.tw", "com.ar", "com.tr", "net.au", "net.br", "net.cn", "net.il", "org.uk",
    "org.au", "org.br", "org.cn", "org.il", "ac.uk", "gov.uk", "gov.au", "gov.cn", "gov.il",
    "edu.au", "edu.cn", "edu.mx"]

/-- The text is one of the suffixes, up to ASCII case. -/
def isSuffix (cs : List Char) : Bool :=
  multiLabelSuffixes.contains (Text.lowerAscii (String.ofList cs))

/-- Labels with dots between them. -/
def joined (labels : List (List Char)) : List Char :=
  ['.'].intercalate labels

/-- The last `count` elements of a list. -/
def lastOf {α : Type} (count : Nat) (xs : List α) : List α :=
  xs.drop (xs.length - count)

/-- The registrable domain: the label in front of the suffix, and the suffix. A name of one label
has none, and neither has a suffix of two labels by itself. -/
def registrable? (text : String) : Option String :=
  let body := Text.dropFinalDot text.toList
  let labels := (body.splitOn '.').filter (!·.isEmpty)
  let lastTwo := joined (lastOf 2 labels)
  if labels.length < 2 then none
  else if 3 ≤ labels.length then
    if isSuffix lastTwo then some (String.ofList (joined (lastOf 3 labels)))
    else some (String.ofList lastTwo)
  else if isSuffix body then none
  else some (String.ofList lastTwo)

end DnsHealth.HostName
