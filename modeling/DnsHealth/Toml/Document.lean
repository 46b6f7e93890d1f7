import DnsHealth.Toml.Table
import DnsHealth.Toml.Moment
import DnsHealth.Toml.Number
import DnsHealth.Toml.Quoted

/-!
# TOML documents

A document is a sequence of expressions, one to a line: a key with its value, the header of a table,
or the header of an element of an array of tables. `Table.ofText?` reads the expressions and then
carries them out in order.

Values nest up to `maxDepth` levels and keys have up to `maxDepth` parts; beyond that a document is
refused.
-/

namespace DnsHealth.Toml

/-- The most levels of nested values, and the most parts of a dotted key. -/
def maxDepth : Nat := 79

/-! ## Keys -/

/-- A character of a key that needs no quotes. -/
def isBare (c : Char) : Bool :=
  c.isAlphanum || c == '_' || c == '-'

/-- One part of a key. -/
def keyPart? (cs : List Char) : Option (List Char × List Char) :=
  match cs.takeWhile isBare with
  | [] => lineString? cs
  | bare => some (bare, cs.dropWhile isBare)

/-- A key of at most `left` parts, with the blanks around them. -/
def keyOf? : (left : Nat) → List Char → Option (List String × List Char)
  | 0, _ => none
  | left + 1, cs => do
    let (part, cs) ← keyPart? (skipBlank cs)
    match skipBlank cs with
    | '.' :: rest =>
      let (parts, rest) ← keyOf? left rest
      pure (String.ofList part :: parts, rest)
    | rest => pure ([String.ofList part], rest)

/-- A key with the blanks around it. -/
def key? (cs : List Char) : Option (List String × List Char) :=
  keyOf? maxDepth cs

/-- A key, the equals sign and a value. -/
def pair? (value? : List Char → Option (Value × List Char)) (cs : List Char) :
    Option ((List String × Value) × List Char) := do
  let (path, cs) ← key? cs
  match cs with
  | '=' :: cs =>
    let (v, rest) ← value? (skipBlank cs)
    pure ((path, v), rest)
  | _ => none

/-! ## Values -/

/-- The text in front of what follows. -/
def consumed (cs rest : List Char) : String :=
  String.ofList (cs.take (cs.length - rest.length))

/-- A number, a date or a time. -/
def numeric? (cs : List Char) : Option (Value × List Char) :=
  match moment? cs with
  | some rest => some (.moment (consumed cs rest), rest)
  | none =>
    match float? cs with
    | some rest => some (.float (consumed cs rest), rest)
    | none => (integer? cs).map fun (n, rest) => (.integer n, rest)

/-- A value without parts. -/
def scalarValue? (cs : List Char) : Option (Value × List Char) :=
  match cs with
  | 't' :: 'r' :: 'u' :: 'e' :: rest => some (.boolean true, rest)
  | 'f' :: 'a' :: 'l' :: 's' :: 'e' :: rest => some (.boolean false, rest)
  | '"' :: _ | '\'' :: _ => (string? cs).map fun (s, rest) => (.string (String.ofList s), rest)
  | _ => numeric? cs

/-- The items of an array behind those already read, up to the closing bracket. A comma may follow
the last one. Every item is at least one character, which bounds how many can be left. -/
def itemsOnto? (value? : List Char → Option (Value × List Char)) :
    (left : Nat) → List Value → List Char → Option (List Value × List Char)
  | 0, _, _ => none
  | left + 1, done, cs => do
    match ← skipGap? false cs with
    | ']' :: rest => pure (done.reverse, rest)
    | cs =>
      let (v, cs) ← value? cs
      match ← skipGap? false cs with
      | ',' :: rest => itemsOnto? value? left (v :: done) rest
      | ']' :: rest => pure ((v :: done).reverse, rest)
      | _ => none

/-- The pairs of an inline table behind those already read, up to the closing brace. -/
def pairsOnto? (value? : List Char → Option (Value × List Char)) :
    (left : Nat) → List (List String × Value) → List Char →
      Option (List (List String × Value) × List Char)
  | 0, _, _ => none
  | left + 1, done, cs => do
    let (pair, cs) ← pair? value? cs
    match skipBlank cs with
    | ',' :: rest => pairsOnto? value? left (pair :: done) rest
    | '}' :: rest => pure ((pair :: done).reverse, rest)
    | _ => none

/-- An inline table behind its opening brace. -/
def inlineTable? (value? : List Char → Option (Value × List Char)) (cs : List Char) :
    Option (Value × List Char) :=
  match skipBlank cs with
  | '}' :: rest => some (.table [], rest)
  | cs => do
    let (pairs, rest) ← pairsOnto? value? (cs.length + 1) [] cs
    let table ← Table.ofPairs? pairs
    pure (.table table, rest)

/-- A value with at most `depth` levels of arrays and inline tables. -/
def valueOf? : (depth : Nat) → List Char → Option (Value × List Char)
  | 0, cs => scalarValue? cs
  | depth + 1, cs =>
    match cs with
    | '[' :: rest =>
      (itemsOnto? (valueOf? depth) (rest.length + 1) [] rest).map fun (items, rest) =>
        (.array items, rest)
    | '{' :: rest => inlineTable? (valueOf? depth) rest
    | _ => scalarValue? cs

/-- A value. -/
def value? (cs : List Char) : Option (Value × List Char) :=
  valueOf? maxDepth cs

/-! ## Expressions -/

/-- A line of a document that says something. -/
inductive Expression where
  | assign (path : List String) (v : Value)
  | table (path : List String)
  | element (path : List String)
  deriving Repr

/-- An expression, without the end of its line. -/
def expression? : List Char → Option (Expression × List Char)
  | '[' :: '[' :: cs => do
    let (path, cs) ← key? cs
    match cs with
    | ']' :: ']' :: rest => pure (.element path, rest)
    | _ => none
  | '[' :: cs => do
    let (path, cs) ← key? cs
    match cs with
    | ']' :: rest => pure (.table path, rest)
    | _ => none
  | cs => (pair? value? cs).map fun ((path, v), rest) => (.assign path v, rest)

/-- The expressions of a document behind those already read. A line has at least one character,
which bounds how many can be left. -/
def expressionsOnto? : (left : Nat) → List Expression → List Char → Option (List Expression)
  | 0, _, _ => none
  | left + 1, done, cs =>
    match skipBlank cs with
    | [] => some done.reverse
    | line =>
      match lineEnd? line with
      | some next => expressionsOnto? left done next
      | none => do
        let (expression, rest) ← expression? line
        let next ← lineEnd? rest
        expressionsOnto? left (expression :: done) next

/-- The expressions of a document. -/
def expressions? (cs : List Char) : Option (List Expression) :=
  expressionsOnto? (cs.length + 1) [] cs

/-! ## Documents -/

/-- The tables of a document so far, and the header opened last. -/
structure Progress where
  entries : Draft.Entries := []
  header : List String := []

/-- Carry out an expression. -/
def Progress.step (progress : Progress) : Expression → Option Progress
  | .assign path v =>
    (Draft.assignBelow progress.header path v progress.entries).map fun entries =>
      { progress with entries }
  | .table path =>
    (Draft.openTable path progress.entries).map fun entries => { entries, header := path }
  | .element path =>
    (Draft.openElement path progress.entries).map fun entries => { entries, header := path }

/-- A text without a byte order mark at its front. -/
def dropMark : List Char → List Char
  | '\uFEFF' :: cs => cs
  | cs => cs

/-- The table that a document denotes. -/
def Table.ofText? (text : String) : Option Table := do
  let expressions ← expressions? (dropMark text.toList)
  let progress ← expressions.foldlM Progress.step {}
  pure (Draft.finishAll progress.entries)

end DnsHealth.Toml
