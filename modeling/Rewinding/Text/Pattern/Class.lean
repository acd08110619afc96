import Rewinding.Text.Pattern.Atom

/-!
# The classes of patterns

A class stands between brackets and holds characters, ranges and other classes; operators combine
what stands before them with what follows. `takeClass?` takes a class and returns how deep it
nests.
-/

namespace Rewinding.Text.Pattern

/-- How deep a row of parts nests: one part alone is no row. -/
def joined : List Nat → Nat
  | [] => 0
  | [depth] => depth
  | depths => depths.foldl Nat.max 0 + 1

/-- A class that is still open. -/
structure OpenClass where
  isNegated : Bool
  /-- How deep each of the members since the last operator nests. -/
  members : List Nat := []
  /-- How deep nests what stands before the last operator. -/
  operand : Option Nat := none
  deriving Repr

namespace OpenClass

def depth (c : OpenClass) : Nat :=
  match c.operand with
  | some depth => Nat.max depth (joined c.members) + 1
  | none => joined c.members

def add (c : OpenClass) (depth : Nat) : OpenClass := { c with members := depth :: c.members }

def operate (c : OpenClass) : OpenClass := { c with members := [], operand := some c.depth }

end OpenClass

/-! ### Parts of classes -/

/-- Take the hyphens at the start of a class, and count them. -/
def takeHyphens (mode : Mode) (cs : List Char) : Nat × List Char :=
  match cs with
  | '-' :: cs =>
    let (count, rest) := takeHyphens mode (skip mode cs)
    (count + 1, rest)
  | cs => (0, cs)
termination_by cs.length
decreasing_by exact Nat.lt_succ_of_le (length_skip_le ..)

/-- Take the hyphens at the start of a class, or else a closing bracket there. They stand for
themselves. -/
def takeMarks (mode : Mode) (cs : List Char) : Nat × List Char :=
  match takeHyphens mode cs with
  | (0, ']' :: cs) => (1, skip mode cs)
  | marks => marks

/-- Open a class after its bracket. A sign of negation may follow, and then members that are marks
of punctuation. -/
def openClass? (mode : Mode) (cs : List Char) : Option (OpenClass × List Char) := do
  let (isNegated, cs) := match skip mode cs with
    | '^' :: cs => (true, skip mode cs)
    | cs => (false, cs)
  let (count, cs) := takeMarks mode cs
  guard (count = 0 ∨ (Atom.char '-' false).isMember mode)
  return ({ isNegated, members := List.replicate count 0 }, cs)

/-- The names of the classes that are written between colons. -/
def classNames : List String :=
  ["alnum", "alpha", "ascii", "blank", "cntrl", "digit", "graph", "lower", "print", "punct",
    "space", "upper", "word", "xdigit"]

/-- Read a class with a name, after its opening bracket: whether it is negated. -/
def namedClass? : List Char → Option (Bool × List Char)
  | ':' :: cs =>
    let (isNegated, cs) := match cs with
      | '^' :: cs => (true, cs)
      | cs => (false, cs)
    let name := cs.takeWhile (· ≠ ':')
    match cs.dropWhile (· ≠ ':') with
    | ':' :: ']' :: cs =>
      if String.ofList name ∈ classNames then some (isNegated, cs) else none
    | _ => none
  | _ => none

/-- Whether a class with a name may be a member: it has letters of two cases, and if it is negated
bytes that are no characters. -/
def isNamedMember (mode : Mode) (isNegated : Bool) : Bool :=
  if mode.isUnicode then !mode.isCaseless else !isNegated

/-- Read one atom of a class. -/
def classAtom? (mode : Mode) : List Char → Option (Atom × List Char)
  | '\\' :: cs => escape? mode cs
  | c :: cs => some (.char c false, cs)
  | [] => none

/-- Take one atom of a class, or a range. A hyphen before a closing bracket or before another
hyphen makes no range. -/
def takeRange? (mode : Mode) (cs : List Char) : Option (List Char) := do
  let (first, rest) ← classAtom? mode cs
  guard (first.isMember mode)
  match skip mode rest with
  | '-' :: after =>
    if peek? mode after = some ']' ∨ peek? mode after = some '-' then return '-' :: after
    else do
      let (last, rest) ← classAtom? mode (skip mode after)
      guard (last.isMember mode ∧ first.isRange last)
      return rest
  | rest => return rest

/-! ### Whole classes -/

/-- Take the rest of a class that is open inside of others, up to the bracket that closes the
outermost one, and return how deep that one nests. In bytes a negated class is never one of
characters. -/
def takeClass? (mode : Mode) (inner : OpenClass) (outer : List OpenClass) (cs : List Char) :
    Option (Nat × List Char) :=
  let go (inner : OpenClass) (outer : List OpenClass) (rest : List Char) :
      Option (Nat × List Char) :=
    if _h : rest.length < cs.length then takeClass? mode inner outer rest else none
  match skip mode cs with
  | [] => none
  | ']' :: rest =>
    if inner.isNegated && !mode.isUnicode then none
    else
      match outer with
      | [] => some (inner.depth + 1, rest)
      | c :: outer => go (c.add (inner.depth + 1)) outer rest
  | '[' :: rest =>
    match namedClass? rest with
    | some (isNegated, rest) =>
      if isNamedMember mode isNegated then go (inner.add 0) outer rest else none
    | none => (openClass? mode rest).bind fun (c, rest) => go c (inner :: outer) rest
  | '&' :: '&' :: rest => go inner.operate outer rest
  | '-' :: '-' :: rest => go inner.operate outer rest
  | '~' :: '~' :: rest => go inner.operate outer rest
  | rest => (takeRange? mode rest).bind (go (inner.add 0) outer)
termination_by cs.length
decreasing_by exact _h

/-- Take a class after its opening bracket, and return how deep it nests. -/
def class? (mode : Mode) (cs : List Char) : Option (Nat × List Char) :=
  (openClass? mode cs).bind fun (c, rest) => takeClass? mode c [] rest

end Rewinding.Text.Pattern
