/-!
# TOML values

Tables remember how they came about, because that decides what may still be added to them while a
document is read.
-/

namespace Rewinding.Toml

/-- How a table came about. -/
inductive Form where
  /-- By a header of its own, or as the root. -/
  | header
  /-- As part of a longer header. -/
  | implied
  /-- As part of a dotted key. -/
  | dotted
  /-- Written between braces; nothing can be added to it. -/
  | inline
  deriving DecidableEq, Repr

/-- A float as it is written: `mantissa * 10 ^ exponent`, or a word for infinity or not-a-number. -/
inductive FloatText where
  | decimal (mantissa : Nat) (exponent : Int)
  | word
  deriving DecidableEq, Repr

/-- A TOML value. Signs of floats and the parts of dates are not kept. -/
inductive Value where
  | string (text : String)
  /-- An integer that is written in the right form has no value if digits are missing in it. -/
  | integer (value : Option Int)
  | float (text : FloatText)
  | boolean (value : Bool)
  | date
  /-- `ofTables` marks an array that double-bracketed headers made. -/
  | array (ofTables : Bool) (items : List Value)
  | table (form : Form) (entries : List (String × Value))
  deriving Repr

/-- The keys of a table with their values. -/
abbrev Entries := List (String × Value)

namespace Entries

def get? (entries : Entries) (key : String) : Option Value := entries.lookup key

/-- The entries with `value` under `key`, in the place of an earlier value if there is one. -/
def put (key : String) (value : Value) : Entries → Entries
  | [] => [(key, value)]
  | entry :: entries =>
    if entry.1 = key then (key, value) :: entries else entry :: put key value entries

/-- The entries with a key that they must not have yet. -/
def add? (key : String) (value : Value) (entries : Entries) : Option Entries :=
  if (entries.get? key).isSome then none else some (entries ++ [(key, value)])

/-- Add a value under a dotted key. The tables that the key goes through must be new or come from
dotted keys themselves; those that a header only implied can be passed, but nothing can be put
directly into them. An array of tables stands for its last one. -/
def addDotted? (form : Form) (key : String) (value : Value) : List String → Entries → Option Entries
  | [], entries => if form = .dotted then entries.add? key value else none
  | k :: path, entries =>
    match entries.get? k with
    | none => do
      let sub ← addDotted? .dotted key value path []
      return entries.put k (.table .dotted sub)
    | some (.table form sub) => do
      guard (form = .dotted ∨ form = .implied)
      let sub ← addDotted? form key value path sub
      return entries.put k (.table form sub)
    | some (.array true items) =>
      match items.getLast? with
      | some (.table form sub) => do
        let sub ← addDotted? form key value path sub
        return entries.put k (.array true (items.dropLast ++ [.table form sub]))
      | _ => none
    | some _ => none

/-- Add a value under a key, dotted or not, to the table that is being written. -/
def addAt? (path : List String) (key : String) (value : Value) (entries : Entries) :
    Option Entries :=
  match path with
  | [] => entries.add? key value
  | _ => entries.addDotted? .header key value path

/-- Change the table at `path`, as headers find it: tables that are missing are implied, and an
array of tables stands for its last one. -/
def descend? (change : Entries → Option Entries) : List String → Entries → Option Entries
  | [], entries => change entries
  | k :: path, entries =>
    match entries.get? k with
    | none => do
      let sub ← descend? change path []
      return entries.put k (.table .implied sub)
    | some (.table form sub) => do
      guard (form ≠ .inline)
      let sub ← descend? change path sub
      return entries.put k (.table form sub)
    | some (.array true items) =>
      match items.getLast? with
      | some (.table form sub) => do
        let sub ← descend? change path sub
        return entries.put k (.array true (items.dropLast ++ [.table form sub]))
      | _ => none
    | some _ => none

/-- Open the table that a header names. A table can be opened once, and only if no dotted key made
it. -/
def openTable? (key : String) (entries : Entries) : Option Entries :=
  match entries.get? key with
  | none => some (entries.put key (.table .header []))
  | some (.table .implied sub) => some (entries.put key (.table .header sub))
  | some _ => none

/-- Open one more table in the array that a double-bracketed header names. -/
def openItem? (key : String) (entries : Entries) : Option Entries :=
  match entries.get? key with
  | none => some (entries.put key (.array true [.table .header []]))
  | some (.array true items) => some (entries.put key (.array true (items ++ [.table .header []])))
  | some _ => none

end Entries

end Rewinding.Toml
