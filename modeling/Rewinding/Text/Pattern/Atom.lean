import Rewinding.Text.Blank
import Rewinding.Text.Hexadecimal

/-!
# The atoms of patterns

Flags in a pattern change how the rest of it is read and what it means: `Mode` holds those that
decide whether a text is a pattern. An atom is one character of a pattern, or what a backslash
begins. Patterns match texts and never parts of a character, and no tables of Unicode are at hand;
`Atom.isProvided` says what is left over in each mode.
-/

namespace Rewinding.Text.Pattern

/-- How a pattern is read at some place. -/
structure Mode where
  /-- Blanks and comments are skipped. -/
  isSpaced : Bool := false
  /-- A letter stands for both of its cases. -/
  isCaseless : Bool := false
  /-- Characters are matched, and not bytes. -/
  isUnicode : Bool := true
  deriving DecidableEq, Repr

/-! ### Blanks -/

/-- Skip blanks and comments, which go from a number sign to the end of the line. -/
def skipSpaced (inComment : Bool) : List Char → List Char
  | [] => []
  | c :: cs =>
    if inComment then skipSpaced (c ≠ '\n') cs
    else if isBlank c then skipSpaced false cs
    else if c = '#' then skipSpaced true cs
    else c :: cs

def skip (mode : Mode) (cs : List Char) : List Char :=
  if mode.isSpaced then skipSpaced false cs else cs

/-- The next character that is no blank. A comment does not hide its first character here. -/
def peek? (mode : Mode) (cs : List Char) : Option Char :=
  if mode.isSpaced then
    let rest := match cs.dropWhile isBlank with
      | '#' :: comment => comment.dropWhile isBlank
      | rest => rest
    rest.head? <|> cs.head?
  else cs.head?

theorem length_skipSpaced_le (inComment : Bool) (cs : List Char) :
    (skipSpaced inComment cs).length ≤ cs.length := by
  induction cs generalizing inComment with
  | nil => exact Nat.le_refl _
  | cons c cs ih =>
    rw [skipSpaced]
    split
    · exact Nat.le_succ_of_le (ih _)
    · split
      · exact Nat.le_succ_of_le (ih _)
      · split
        · exact Nat.le_succ_of_le (ih _)
        · exact Nat.le_refl _

theorem length_skip_le (mode : Mode) (cs : List Char) : (skip mode cs).length ≤ cs.length := by
  unfold skip
  split
  · exact length_skipSpaced_le ..
  · exact Nat.le_refl _

/-! ### Atoms -/

/-- What one character of a pattern, or a backslash with what belongs to it, stands for. -/
inductive Atom where
  /-- A character; `isByte` marks one that two hexadecimal digits name. -/
  | char (c : Char) (isByte : Bool)
  /-- The digits, the blanks or the characters of words, or all others. -/
  | set (isNegated : Bool)
  /-- A boundary of words, or a place that is none. -/
  | boundary
  /-- An end of the text. -/
  | edge
  deriving DecidableEq, Repr

namespace Atom

/-- Whether a pattern may hold an atom outside of classes. Without tables, letters have no other
case, and the digits, blanks and words of Unicode are not known. A byte that is no character, and a
set with such bytes, are in no text. -/
def isProvided (mode : Mode) : Atom → Bool
  | .char c isByte => if mode.isUnicode then !mode.isCaseless else !(isByte && 128 ≤ c.toNat)
  | .set isNegated => !mode.isUnicode && !isNegated
  | .boundary => !mode.isUnicode
  | .edge => true

/-- Whether a class may hold an atom. A class of bytes holds no character of several bytes. -/
def isMember (mode : Mode) : Atom → Bool
  | .char c _ => if mode.isUnicode then !mode.isCaseless else c.toNat < 128
  | .set isNegated => !mode.isUnicode && !isNegated
  | .boundary => false
  | .edge => false

/-- Whether two atoms are the ends of a range, which is not empty. -/
def isRange : Atom → Atom → Bool
  | .char first _, .char last _ => first ≤ last
  | _, _ => false

end Atom

/-- Whether a backslash before `c` lets it stand for itself. -/
def isMark (c : Char) : Bool := c.toNat < 128 && !c.isAlphanum && c ≠ '<' && c ≠ '>'

/-- The atom that a backslash and one character make. -/
def named? : Char → Option Atom
  | 'a' => some (.char '\u0007' false)
  | 'f' => some (.char '\u000c' false)
  | 't' => some (.char '\t' false)
  | 'n' => some (.char '\n' false)
  | 'r' => some (.char '\r' false)
  | 'v' => some (.char '\u000b' false)
  | 'd' => some (.set false)
  | 's' => some (.set false)
  | 'w' => some (.set false)
  | 'D' => some (.set true)
  | 'S' => some (.set true)
  | 'W' => some (.set true)
  | 'b' => some .boundary
  | 'B' => some .boundary
  | '<' => some .boundary
  | '>' => some .boundary
  | 'A' => some .edge
  | 'z' => some .edge
  | c => if isMark c then some (.char c false) else none

/-- Read `count` hexadecimal digits. -/
def digits? (mode : Mode) : (count : Nat) → List Char → Option (List Char × List Char)
  | 0, cs => some ([], cs)
  | count + 1, cs =>
    match skip mode cs with
    | [] => none
    | d :: rest =>
      if isHexDigit d then (digits? mode count rest).map fun (ds, rest) => (d :: ds, rest) else none

/-- Read the character that `count` hexadecimal digits name. -/
def numbered? (mode : Mode) (count : Nat) (cs : List Char) : Option (Char × List Char) := do
  let (ds, rest) ← digits? mode count cs
  let c ← codePoint? ds
  return (c, rest)

def escape? (mode : Mode) : List Char → Option (Atom × List Char)
  | 'x' :: cs => (numbered? mode 2 cs).map fun (c, rest) => (.char c true, rest)
  | 'u' :: cs => (numbered? mode 4 cs).map fun (c, rest) => (.char c false, rest)
  | 'U' :: cs => (numbered? mode 8 cs).map fun (c, rest) => (.char c false, rest)
  | c :: cs => (named? c).map (·, cs)
  | [] => none

end Rewinding.Text.Pattern
