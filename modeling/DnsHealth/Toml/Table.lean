/-!
# Tables

What a TOML document denotes is a table whose entries are scalars, arrays and tables. Nothing here
looks inside a floating-point number or a date, so these keep the text in which they were written.

A table comes about piece by piece: by headers, by dotted keys, and on the way to either. How a
table came about decides what may still be added to it:

* a header may open a table that only lay on the way to another header, and no other one twice;
* a dotted key may go on in a table that dotted keys made, and not in one that a header opened;
* a header of an array of tables adds an element, and whatever is named below goes to the last one;
* no key is given a value twice, and a finished value is never extended.
-/

namespace DnsHealth.Toml

/-! ## Values -/

inductive Value where
  | string (text : String)
  | integer (n : Int)
  | float (written : String)
  | boolean (value : Bool)
  /-- A date, a time, or both. -/
  | moment (written : String)
  | array (items : List Value)
  | table (entries : List (String × Value))
  deriving Repr, Inhabited

mutual

/-- Whether two values are the same. No handler derives this for values inside lists of values. -/
def Value.decEq : (a b : Value) → Decidable (a = b)
  | .string a, .string b => decidable_of_iff (a = b) ⟨congrArg _, Value.string.inj⟩
  | .integer a, .integer b => decidable_of_iff (a = b) ⟨congrArg _, Value.integer.inj⟩
  | .float a, .float b => decidable_of_iff (a = b) ⟨congrArg _, Value.float.inj⟩
  | .boolean a, .boolean b => decidable_of_iff (a = b) ⟨congrArg _, Value.boolean.inj⟩
  | .moment a, .moment b => decidable_of_iff (a = b) ⟨congrArg _, Value.moment.inj⟩
  | .array a, .array b =>
    have := Value.decEqItems a b
    decidable_of_iff (a = b) ⟨congrArg _, Value.array.inj⟩
  | .table a, .table b =>
    have := Value.decEqEntries a b
    decidable_of_iff (a = b) ⟨congrArg _, Value.table.inj⟩
  | .string _, .integer _ | .string _, .float _ | .string _, .boolean _ | .string _, .moment _
  | .string _, .array _ | .string _, .table _ | .integer _, .string _ | .integer _, .float _
  | .integer _, .boolean _ | .integer _, .moment _ | .integer _, .array _ | .integer _, .table _
  | .float _, .string _ | .float _, .integer _ | .float _, .boolean _ | .float _, .moment _
  | .float _, .array _ | .float _, .table _ | .boolean _, .string _ | .boolean _, .integer _
  | .boolean _, .float _ | .boolean _, .moment _ | .boolean _, .array _ | .boolean _, .table _
  | .moment _, .string _ | .moment _, .integer _ | .moment _, .float _ | .moment _, .boolean _
  | .moment _, .array _ | .moment _, .table _ | .array _, .string _ | .array _, .integer _
  | .array _, .float _ | .array _, .boolean _ | .array _, .moment _ | .array _, .table _
  | .table _, .string _ | .table _, .integer _ | .table _, .float _ | .table _, .boolean _
  | .table _, .moment _ | .table _, .array _ => isFalse nofun

def Value.decEqItems : (a b : List Value) → Decidable (a = b)
  | [], [] => isTrue rfl
  | x :: xs, y :: ys =>
    have := Value.decEq x y
    have := Value.decEqItems xs ys
    decidable_of_iff (x = y ∧ xs = ys) List.cons_eq_cons.symm
  | [], _ :: _ | _ :: _, [] => isFalse nofun

def Value.decEqEntries : (a b : List (String × Value)) → Decidable (a = b)
  | [], [] => isTrue rfl
  | (key, x) :: xs, (other, y) :: ys =>
    have := Value.decEq x y
    have := Value.decEqEntries xs ys
    decidable_of_iff ((key = other ∧ x = y) ∧ xs = ys) (by simp)
  | [], _ :: _ | _ :: _, [] => isFalse nofun

end

instance : DecidableEq Value := Value.decEq

/-- A table: each key stands once. -/
abbrev Table := List (String × Value)

/-- The value of a key. -/
def Table.get? (table : Table) (key : String) : Option Value :=
  table.lookup key

/-! ## Tables under construction -/

/-- How a table came about. -/
inductive Origin where
  | header
  /-- On the way to a header. -/
  | implied
  /-- By a dotted key. -/
  | dotted
  deriving DecidableEq, Repr

/-- What a key stands for while the table is under construction. -/
inductive Draft where
  /-- A finished value. -/
  | value (v : Value)
  | table (origin : Origin) (entries : List (String × Draft))
  /-- An array of tables: the finished elements, and the last one. -/
  | tables (earlier : List Value) (last : List (String × Draft))

namespace Draft

/-- The entries of a table under construction. -/
abbrev Entries := List (String × Draft)

mutual

/-- The value that has been constructed. -/
def finish : Draft → Value
  | .value v => v
  | .table _ entries => .table (finishAll entries)
  | .tables earlier last => .array (earlier ++ [.table (finishAll last)])

/-- The table that has been constructed. -/
def finishAll : List (String × Draft) → List (String × Value)
  | [] => []
  | (key, draft) :: entries => (key, finish draft) :: finishAll entries

end

/-- Give a key that is present another meaning. -/
def replace (entries : Entries) (key : String) (draft : Draft) : Entries :=
  entries.map fun entry => if entry.1 = key then (key, draft) else entry

/-- Go down a path, making the tables that are missing, and change the table reached. The path is
that of a header or the front of a dotted key. -/
def within (way : Origin) (change : Origin → Entries → Option Entries) :
    (path : List String) → Origin → Entries → Option Entries
  | [], origin, entries => change origin entries
  | key :: path, _, entries =>
    match entries.lookup key with
    | none => (within way change path way []).map fun sub => entries ++ [(key, .table way sub)]
    | some (.value _) => none
    | some (.tables earlier last) =>
      (within way change path .header last).map fun last =>
        replace entries key (.tables earlier last)
    | some (.table origin sub) =>
      if way = .dotted ∧ origin = .header then none
      else
        (within way change path origin sub).map fun sub =>
          replace entries key (.table origin sub)

/-- Give the last key of a path a value. The keys in front of it, if any, must lead to a table that
dotted keys made. -/
def assign (path : List String) (v : Value) : Origin → Entries → Option Entries :=
  within .dotted
    (fun origin entries =>
      match path.getLast? with
      | none => none
      | some key =>
        if 1 < path.length ∧ origin ≠ .dotted then none
        else if (entries.lookup key).isSome then none
        else some (entries ++ [(key, .value v)]))
    path.dropLast

/-- Open a table by its header. -/
def openTable (path : List String) : Entries → Option Entries :=
  within .implied
    (fun _ entries =>
      match path.getLast? with
      | none => none
      | some key =>
        match entries.lookup key with
        | none => some (entries ++ [(key, .table .header [])])
        | some (.table .implied sub) => some (replace entries key (.table .header sub))
        | some _ => none)
    path.dropLast .header

/-- Open another element of an array of tables by its header. -/
def openElement (path : List String) : Entries → Option Entries :=
  within .implied
    (fun _ entries =>
      match path.getLast? with
      | none => none
      | some key =>
        match entries.lookup key with
        | none => some (entries ++ [(key, .tables [] [])])
        | some (.tables earlier last) =>
          some (replace entries key (.tables (earlier ++ [.table (finishAll last)]) []))
        | some _ => none)
    path.dropLast .header

/-- Give a key a value below the header that was opened last. -/
def assignBelow (header path : List String) (v : Value) : Entries → Option Entries :=
  within .implied (assign path v) header .header

end Draft

/-- The table with the given dotted keys and values. -/
def Table.ofPairs? (pairs : List (List String × Value)) : Option Table :=
  (pairs.foldlM (fun entries (path, v) => Draft.assign path v .header entries) []).map
    Draft.finishAll

end DnsHealth.Toml
