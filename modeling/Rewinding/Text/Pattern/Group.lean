import Rewinding.Text.Alphanumeric
import Rewinding.Text.Pattern.Atom

/-!
# The groups of patterns

A parenthesis opens a group, perhaps with a name or with flags that hold inside of it, or it only
changes the flags for what follows.
-/

namespace Rewinding.Text.Pattern

/-! ### Flags -/

/-- Whether flags may be so written: each one once, and a hyphen before those that are taken
away. -/
def areFlags (flags : List Char) : Bool :=
  flags.all (· ∈ ['i', 'm', 's', 'U', 'u', 'R', 'x', '-']) && flags.eraseDups = flags &&
    flags.getLast? ≠ some '-'

/-- What becomes of a setting under flags of which one has the letter `flag`. -/
def setting (flags : List Char) (flag : Char) (before : Bool) : Bool :=
  if flag ∈ flags.takeWhile (· ≠ '-') then true else before && flag ∉ flags

/-- The mode under some flags. -/
def Mode.set (mode : Mode) (flags : List Char) : Mode where
  isSpaced := setting flags 'x' mode.isSpaced
  isCaseless := setting flags 'i' mode.isCaseless
  isUnicode := setting flags 'u' mode.isUnicode

/-! ### Openings -/

/-- What an opening parenthesis begins. -/
inductive Opening where
  /-- A group with the name and the flags that are written in front. -/
  | group (name : Option (List Char)) (flags : List Char)
  /-- A change of the flags, which is no group and is closed already. -/
  | flags (flags : List Char)
  deriving DecidableEq, Repr

/-- Whether the name of a group may be `name`. -/
def isName : List Char → Bool
  | [] => false
  | c :: cs =>
    (c = '_' || isAlphabetic c) && cs.all fun c => isAlphanumeric c || c ∈ ['_', '.', '[', ']']

def name? (cs : List Char) : Option (Opening × List Char) :=
  let name := cs.takeWhile (· ≠ '>')
  match cs.dropWhile (· ≠ '>') with
  | _ :: cs => if isName name then some (.group (some name) [], cs) else none
  | [] => none

/-- Read flags and what ends them. -/
def flags? (cs : List Char) : Option (Opening × List Char) :=
  let flags := cs.takeWhile fun c => c ≠ ':' && c ≠ ')'
  match cs.dropWhile fun c => c ≠ ':' && c ≠ ')' with
  | ':' :: cs => if areFlags flags then some (.group none flags, cs) else none
  | ')' :: cs => if areFlags flags && !flags.isEmpty then some (.flags flags, cs) else none
  | _ => none

/-- Read what follows an opening parenthesis, up to the content of its group. -/
def opening? (mode : Mode) (cs : List Char) : Option (Opening × List Char) :=
  match skip mode cs with
  | '?' :: 'P' :: '<' :: cs => name? cs
  | '?' :: '<' :: cs => name? cs
  | '?' :: cs => flags? cs
  | cs => some (.group none [], cs)

end Rewinding.Text.Pattern
