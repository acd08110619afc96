import Rewinding.Toml.Scalar

/-!
# TOML documents

A document is a list of statements, one a line: headers, which open a table, and keys with values
for the table that is open. `Statement.readAll?` reads the statements, `Entries.ofStatements?` adds
them up to the root table, and `parse?` does both.
-/

namespace Rewinding.Toml

/-! ### Values -/

/-- Read items up to the closing bracket. A comma may follow the last one. -/
def items? (item : Reader Value) (cs : List Char) : Option (List Value × List Char) :=
  match skipGaps cs with
  | ']' :: rest => some ([], rest)
  | start =>
    match item start with
    | none => none
    | some (value, rest) =>
      match skipGaps rest with
      | ']' :: rest => some ([value], rest)
      | ',' :: rest =>
        if _h : rest.length < cs.length then
          (items? item rest).map fun (values, rest) => (value :: values, rest)
        else none
      | _ => none
termination_by cs.length

/-- Read a key, the equals sign and a value, with what `skip` skips around the sign. -/
def keyed? (skip : List Char → List Char) (item : Reader Value) :
    Reader ((List String × String) × Value) := fun cs => do
  let (key, rest) ← key? cs
  match skip rest with
  | '=' :: rest => do
    let (value, rest) ← item (skip rest)
    return ((key, value), rest)
  | _ => none

/-- Read entries up to the closing brace, after those read before. A comma may follow the last
one. -/
def inlineTable? (item : Reader Value) (before : Entries) (cs : List Char) :
    Option (Entries × List Char) :=
  match skipGaps cs with
  | '}' :: rest => some (before, rest)
  | start =>
    match keyed? skipGaps item start with
    | none => none
    | some (((path, key), value), rest) =>
      match before.addAt? path key value with
      | none => none
      | some entries =>
        match skipGaps rest with
        | '}' :: rest => some (entries, rest)
        | ',' :: rest =>
          if _h : rest.length < cs.length then inlineTable? item entries rest else none
        | _ => none
termination_by cs.length

/-- Read a value in which arrays and braces nest at most `depth` deep. -/
def value? : (depth : Nat) → Reader Value
  | 0, cs =>
    match string? cs with
    | some (text, rest) => some (.string text, rest)
    | none => scalar? cs
  | depth + 1, cs =>
    match cs with
    | '[' :: rest => (items? (value? depth) rest).map fun (items, rest) => (.array false items, rest)
    | '{' :: rest =>
      (inlineTable? (value? depth) [] rest).map fun (entries, rest) => (.table .inline entries, rest)
    | cs =>
      match string? cs with
      | some (text, rest) => some (.string text, rest)
      | none => scalar? cs

/-- How deep arrays and braces may nest in a document. -/
def maxDepth : Nat := 80

/-! ### Statements -/

/-- One line of a document that says something. -/
inductive Statement where
  /-- Opens the table at a path. -/
  | table (path : List String) (key : String)
  /-- Opens one more table in the array at a path. -/
  | item (path : List String) (key : String)
  /-- A value for the open table. -/
  | entry (path : List String) (key : String) (value : Value)

def Statement.read? : Reader Statement
  | '[' :: '[' :: cs =>
    match key? cs with
    | some ((path, key), rest) =>
      match skipSpaces rest with
      | ']' :: ']' :: rest => some (.item path key, rest)
      | _ => none
    | none => none
  | '[' :: cs =>
    match key? cs with
    | some ((path, key), rest) =>
      match skipSpaces rest with
      | ']' :: rest => some (.table path key, rest)
      | _ => none
    | none => none
  | cs => (keyed? skipSpaces (value? maxDepth) cs).map fun (((path, key), value), rest) =>
    (.entry path key value, rest)

def Statement.readAll? (cs : List Char) : Option (List Statement) :=
  match skipGaps cs with
  | [] => some []
  | start =>
    match Statement.read? start with
    | none => none
    | some (statement, rest) =>
      match lineEnd? rest with
      | none => none
      | some rest =>
        if _h : rest.length < cs.length then (Statement.readAll? rest).map (statement :: ·) else none
termination_by cs.length

/-! ### The root table -/

/-- A root table and the path of the table that is open in it. -/
structure Draft where
  root : Entries := []
  current : List String := []

def Draft.follow? (draft : Draft) : Statement → Option Draft
  | .table path key => (draft.root.descend? (Entries.openTable? key) path).map (⟨·, path ++ [key]⟩)
  | .item path key => (draft.root.descend? (Entries.openItem? key) path).map (⟨·, path ++ [key]⟩)
  | .entry path key value =>
    (draft.root.descend? (Entries.addAt? path key value) draft.current).map (⟨·, draft.current⟩)

/-- The root table that the statements add up to. -/
def Entries.ofStatements? (statements : List Statement) : Option Entries :=
  (statements.foldlM Draft.follow? {}).map Draft.root

/-- Read a document: its root table. A byte order mark in front is skipped. -/
def parse? (text : String) : Option Entries := do
  let cs := match text.toList with
    | '\ufeff' :: cs => cs
    | cs => cs
  let statements ← Statement.readAll? cs
  Entries.ofStatements? statements

end Rewinding.Toml
