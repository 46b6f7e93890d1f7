import DnsHealth.Text.Characters
import DnsHealth.Toml.Blank

/-!
# TOML strings

The four spellings of a string. Basic strings stand in `"` and know escapes; literal strings stand
in `'` and are taken as they are. Tripled quotes make either kind span lines: then a line end right
behind the opening quotes is dropped, every other line end counts as a line feed, and up to two
quotes may stand in front of the closing ones.

All readers begin behind the opening quotes and answer with the characters and with what follows the
closing quotes.
-/

namespace DnsHealth.Toml

/-! ## Escapes -/

/-- The character of a code point that is one. -/
def scalar? (n : Nat) : Option Char :=
  if n < 0xD800 ∨ (0xDFFF < n ∧ n < 0x110000) then some (Char.ofNat n) else none

/-- The character with a code of exactly `count` hexadecimal digits. -/
def hexEscape? (count : Nat) (cs : List Char) : Option Char :=
  if count ≤ cs.length then (Text.number? 16 (cs.take count)).bind scalar? else none

/-- The character of the escape behind a backslash, and how many characters it takes. -/
def escape? : List Char → Option (Char × Nat)
  | 'b' :: _ => some ('\x08', 1)
  | 't' :: _ => some ('\t', 1)
  | 'n' :: _ => some ('\n', 1)
  | 'f' :: _ => some ('\x0c', 1)
  | 'r' :: _ => some ('\r', 1)
  | '"' :: _ => some ('"', 1)
  | '\\' :: _ => some ('\\', 1)
  | 'u' :: rest => (hexEscape? 4 rest).map fun c => (c, 5)
  | 'U' :: rest => (hexEscape? 8 rest).map fun c => (c, 9)
  | _ => none

/-- What follows a backslash that stands at the end of its line: the rest of the line, line ends and
blanks are skipped. -/
def continuation? (cs : List Char) : Option (List Char) :=
  (newline? (skipBlank cs)).map skipLines

theorem length_continuation?_le {cs rest : List Char} (h : continuation? cs = some rest) :
    rest.length ≤ cs.length := by
  obtain ⟨line, hline, rfl⟩ := Option.map_eq_some_iff.1 h
  have h1 := length_newline?_lt hline
  have h2 := length_skipLines_le line
  have h3 := (List.dropWhile_sublist isBlank (l := cs)).length_le
  simp only [skipBlank] at h1
  omega

/-! ## One line -/

/-- A basic string, behind the characters read so far. -/
def basicOnto (done : List Char) (cs : List Char) : Option (List Char × List Char) :=
  match cs with
  | [] => none
  | '"' :: rest => some (done.reverse, rest)
  | '\\' :: rest =>
    match escape? rest with
    | some (c, count) => basicOnto (c :: done) (rest.drop count)
    | none => none
  | c :: rest => if isPlain c then basicOnto (c :: done) rest else none
termination_by cs.length
decreasing_by all_goals simp only [List.length_drop, List.length_cons]; omega

/-- A literal string. -/
def literal? (cs : List Char) : Option (List Char × List Char) :=
  let isBody (c : Char) : Bool := isPlain c && c != '\''
  match cs.dropWhile isBody with
  | '\'' :: rest => some (cs.takeWhile isBody, rest)
  | _ => none

/-! ## Several lines -/

/-- The quotes at the front of a text. -/
def leading (quote : Char) (cs : List Char) : Nat :=
  (cs.takeWhile (· == quote)).length

/-- Three or more quotes close a string of several lines; up to two before the last three belong to
it. -/
def close (quote : Char) (done cs : List Char) : List Char × List Char :=
  let extra := min (leading quote cs - 3) 2
  ((List.replicate extra quote ++ done).reverse, cs.drop (extra + 3))

/-- A basic string of several lines, behind the characters read so far. -/
def basicLinesOnto (done : List Char) (cs : List Char) : Option (List Char × List Char) :=
  match cs with
  | [] => none
  | '"' :: rest =>
    if 3 ≤ leading '"' cs then some (close '"' done cs) else basicLinesOnto ('"' :: done) rest
  | '\\' :: rest =>
    match _h : continuation? rest with
    | some next => basicLinesOnto done next
    | none =>
      match escape? rest with
      | some (c, count) => basicLinesOnto (c :: done) (rest.drop count)
      | none => none
  | '\n' :: rest => basicLinesOnto ('\n' :: done) rest
  | '\r' :: '\n' :: rest => basicLinesOnto ('\n' :: done) rest
  | c :: rest => if isPlain c then basicLinesOnto (c :: done) rest else none
termination_by cs.length
decreasing_by
  all_goals simp only [List.length_drop, List.length_cons]
  · omega
  · have hnext := length_continuation?_le _h
    omega
  all_goals omega

/-- A literal string of several lines, behind the characters read so far. -/
def literalLinesOnto (done : List Char) : List Char → Option (List Char × List Char)
  | [] => none
  | '\n' :: rest => literalLinesOnto ('\n' :: done) rest
  | '\r' :: '\n' :: rest => literalLinesOnto ('\n' :: done) rest
  | c :: rest =>
    if c = '\'' ∧ 3 ≤ leading '\'' (c :: rest) then some (close '\'' done (c :: rest))
    else if isPlain c then literalLinesOnto (c :: done) rest
    else none

/-- A text without the line end at its front. -/
def dropNewline (cs : List Char) : List Char :=
  (newline? cs).getD cs

/-! ## All spellings -/

/-- A string that keeps to its line, with its quotes. -/
def lineString? : List Char → Option (List Char × List Char)
  | '"' :: rest => basicOnto [] rest
  | '\'' :: rest => literal? rest
  | _ => none

/-- A string with its quotes. -/
def string? : List Char → Option (List Char × List Char)
  | '"' :: '"' :: '"' :: rest => basicLinesOnto [] (dropNewline rest)
  | '\'' :: '\'' :: '\'' :: rest => literalLinesOnto [] (dropNewline rest)
  | cs => lineString? cs

end DnsHealth.Toml
