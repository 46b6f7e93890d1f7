/-!
# Blanks, comments and line ends

Between the parts of a line stand blanks, which are spaces and tabs. A comment reaches to the end of
its line and holds no control character but tabs. Lines end in a line feed with or without a
carriage return in front; a carriage return that stands alone is refused everywhere.
-/

namespace DnsHealth.Toml

def isBlank (c : Char) : Bool :=
  c == ' ' || c == '\t'

/-- A character that may stand in comments and literal strings: no control character but a tab. -/
def isPlain (c : Char) : Bool :=
  c == '\t' || (0x20 ≤ c.toNat && c.toNat != 0x7F)

def skipBlank (cs : List Char) : List Char :=
  cs.dropWhile isBlank

/-- What follows a line end, if the text begins with one. -/
def newline? : List Char → Option (List Char)
  | '\n' :: rest => some rest
  | '\r' :: '\n' :: rest => some rest
  | _ => none

/-- What follows a comment, if there is one. -/
def skipComment : List Char → List Char
  | '#' :: rest => rest.dropWhile isPlain
  | cs => cs

/-- What follows the end of a line, possibly behind blanks and a comment. The end of the text ends a
line too. -/
def lineEnd? (cs : List Char) : Option (List Char) :=
  match skipComment (skipBlank cs) with
  | [] => some []
  | rest => newline? rest

/-- What follows blanks and line ends. -/
def skipLines : List Char → List Char
  | '\r' :: '\n' :: rest => skipLines rest
  | c :: rest => if isBlank c ∨ c = '\n' then skipLines rest else c :: rest
  | [] => []

/-- What follows blanks, comments and line ends; inside a comment, its rest comes first. -/
def skipGap? : (inComment : Bool) → List Char → Option (List Char)
  | _, '\n' :: rest => skipGap? false rest
  | _, '\r' :: '\n' :: rest => skipGap? false rest
  | true, c :: rest => if isPlain c then skipGap? true rest else none
  | true, [] => none
  | false, '#' :: rest => skipGap? true rest
  | false, '\r' :: _ => none
  | false, c :: rest => if isBlank c then skipGap? false rest else some (c :: rest)
  | false, [] => some []

theorem length_newline?_lt {cs rest : List Char} (h : newline? cs = some rest) :
    rest.length < cs.length := by
  unfold newline? at h
  split at h
  · cases h; simp only [List.length_cons]; omega
  · cases h; simp only [List.length_cons]; omega
  · cases h

theorem length_skipLines_le (cs : List Char) : (skipLines cs).length ≤ cs.length := by
  fun_induction skipLines cs with
  | case1 rest ih => simp only [List.length_cons]; omega
  | case2 c rest _ _ ih => simp only [List.length_cons]; omega
  | case3 => exact Nat.le_refl _
  | case4 => exact Nat.le_refl _

end DnsHealth.Toml
