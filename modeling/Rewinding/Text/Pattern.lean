import Rewinding.Text.Pattern.Class
import Rewinding.Text.Pattern.Group

/-!
# Patterns

Regular expressions, as far as a text must be told from one that is none: `isPattern` reads a text
from left to right and keeps of what it has read only how deep it nests. The groups that are open
wait in a list.

Counted repetitions are not provided.
-/

namespace Rewinding.Text.Pattern

/-- How deep a pattern may nest. -/
def maxDepth : Nat := 250

/-- A part of a sequence. -/
inductive Part where
  /-- A change of the flags. -/
  | flags
  /-- Anything that can be repeated. -/
  | unit (depth : Nat)
  deriving DecidableEq, Repr

def Part.depth : Part → Nat
  | .flags => 0
  | .unit depth => depth

/-- A group that is open, or the pattern itself. -/
structure OpenGroup where
  mode : Mode := {}
  /-- The parts of the last alternative, the latest first. -/
  parts : List Part := []
  /-- How deep the alternatives before nest. -/
  alternatives : List Nat := []
  deriving Repr

namespace OpenGroup

/-- How deep the last alternative nests. -/
def sequenceDepth (g : OpenGroup) : Nat := joined (g.parts.map Part.depth)

/-- How deep the content of a group nests. -/
def depth (g : OpenGroup) : Nat := joined (g.sequenceDepth :: g.alternatives)

def push (g : OpenGroup) (part : Part) : OpenGroup := { g with parts := part :: g.parts }

/-- Add an atom, if it is provided. -/
def pushAtom? (g : OpenGroup) (atom : Atom) : Option OpenGroup :=
  if atom.isProvided g.mode then some (g.push (.unit 0)) else none

def alternate (g : OpenGroup) : OpenGroup :=
  { g with parts := [], alternatives := g.sequenceDepth :: g.alternatives }

/-- Repeat the last part. -/
def repeat? (g : OpenGroup) : Option OpenGroup :=
  match g.parts with
  | .unit depth :: parts => some { g with parts := .unit (depth + 1) :: parts }
  | _ => none

end OpenGroup

/-- Where the reading of a pattern stands. -/
structure Progress where
  inner : OpenGroup := {}
  /-- The groups around, the innermost first. -/
  outer : List OpenGroup := []
  /-- The names of groups so far. -/
  names : List (List Char) := []
  deriving Repr

namespace Progress

/-- Take an opening parenthesis that was read. -/
def enter? (p : Progress) : Opening → Option Progress
  | .flags flags =>
    some { p with inner := { p.inner.push .flags with mode := p.inner.mode.set flags } }
  | .group none flags =>
    some { p with inner := { mode := p.inner.mode.set flags }, outer := p.inner :: p.outer }
  | .group (some name) flags =>
    if name ∈ p.names then none
    else some ⟨{ mode := p.inner.mode.set flags }, p.inner :: p.outer, name :: p.names⟩

def leave? (p : Progress) : Option Progress :=
  match p.outer with
  | g :: outer => some { p with inner := g.push (.unit (p.inner.depth + 1)), outer }
  | [] => none

/-- Read the next part of a pattern. -/
def read? (p : Progress) : List Char → Option (Progress × List Char)
  | [] => none
  | '(' :: cs => do
    let (opening, rest) ← opening? p.inner.mode cs
    return (← p.enter? opening, rest)
  | ')' :: cs => p.leave?.map (·, cs)
  | '|' :: cs => some ({ p with inner := p.inner.alternate }, cs)
  | '[' :: cs => (class? p.inner.mode cs).map fun (depth, rest) =>
    ({ p with inner := p.inner.push (.unit depth) }, rest)
  | '\\' :: cs => do
    let (atom, rest) ← escape? p.inner.mode cs
    return ({ p with inner := ← p.inner.pushAtom? atom }, rest)
  | '.' :: cs =>
    if p.inner.mode.isUnicode then some ({ p with inner := p.inner.push (.unit 0) }, cs) else none
  | '\x7b' :: _ => none
  | c :: cs =>
    if c = '^' ∨ c = '$' then some ({ p with inner := p.inner.push (.unit 0) }, cs)
    else if c = '*' ∨ c = '+' ∨ c = '?' then
      let rest := match cs with
        | '?' :: rest => rest
        | rest => rest
      p.inner.repeat?.map fun inner => ({ p with inner }, rest)
    else (p.inner.pushAtom? (.char c false)).map fun inner => ({ p with inner }, cs)

/-- Whether a pattern can go on with `cs` to its end. -/
def completes (p : Progress) (cs : List Char) : Bool :=
  match skip p.inner.mode cs with
  | [] => p.outer.isEmpty && p.inner.depth ≤ maxDepth
  | c :: rest =>
    match p.read? (c :: rest) with
    | some (p, rest) => if _h : rest.length < cs.length then p.completes rest else false
    | none => false
termination_by cs.length
decreasing_by exact _h

end Progress

end Rewinding.Text.Pattern

namespace Rewinding.Text

/-- Whether a text is a pattern. -/
def isPattern (cs : List Char) : Bool := Pattern.Progress.completes {} cs

end Rewinding.Text
