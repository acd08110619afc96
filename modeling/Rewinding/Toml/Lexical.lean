import Rewinding.Text.Hexadecimal

/-!
# The characters of a TOML document

Blanks, comments and line ends, keys and strings. A reader takes the characters from where it stands
and returns what it read with the rest, or `none` if it cannot read.
-/

namespace Rewinding.Toml

open Text (codePoint?)

/-- Reads a value from the front of a text. -/
abbrev Reader (α : Type) := List Char → Option (α × List Char)

/-! ### Character classes -/

def isSpace (c : Char) : Bool := c = ' ' || c = '\t'

/-- What a line may hold: everything but controls, of which the tab is allowed. -/
def isLineChar (c : Char) : Bool := c = '\t' || (' ' ≤ c && c ≠ '\u007f')

/-- What a key without quotes may hold. -/
def isBareChar (c : Char) : Bool := c.isAlphanum || c = '-' || c = '_'

/-! ### Between the tokens -/

def skipSpaces (cs : List Char) : List Char := cs.dropWhile isSpace

/-- Skip a comment up to the end of its line, or to the first character that it cannot hold. -/
def skipComment : List Char → List Char
  | '#' :: cs => cs.dropWhile isLineChar
  | cs => cs

def newline? : List Char → Option (List Char)
  | '\n' :: cs => some cs
  | '\r' :: '\n' :: cs => some cs
  | _ => none

/-- Take the end of a line, with spaces and a comment before it; the text may end there too. -/
def lineEnd? (cs : List Char) : Option (List Char) :=
  match skipComment (skipSpaces cs) with
  | [] => some []
  | cs => newline? cs

theorem length_dropWhile_le (p : Char → Bool) (cs : List Char) :
    (cs.dropWhile p).length ≤ cs.length :=
  (List.dropWhile_sublist p).length_le

theorem length_skipComment_le (cs : List Char) : (skipComment cs).length ≤ cs.length := by
  unfold skipComment
  split
  · exact Nat.le_succ_of_le (length_dropWhile_le ..)
  · exact Nat.le_refl _

theorem length_of_newline? {cs rest : List Char} (h : newline? cs = some rest) :
    rest.length < cs.length := by
  unfold newline? at h
  split at h
  · cases h
    exact Nat.lt_succ_self _
  · cases h
    simp only [List.length_cons]
    omega
  · cases h

/-- Skip spaces, comments and line ends. -/
def skipGaps (cs : List Char) : List Char :=
  match _h : newline? (skipComment (skipSpaces cs)) with
  | some rest => skipGaps rest
  | none => skipComment (skipSpaces cs)
termination_by cs.length
decreasing_by
  have h1 := length_of_newline? _h
  have h2 := length_skipComment_le (skipSpaces cs)
  have h3 := length_dropWhile_le isSpace cs
  simp only [skipSpaces] at *
  omega

/-! ### Escapes -/

/-- The character that a backslash and `c` stand for. -/
def simpleEscape? : Char → Option Char
  | 'b' => some '\u0008'
  | 't' => some '\t'
  | 'n' => some '\n'
  | 'f' => some '\u000c'
  | 'r' => some '\r'
  | 'e' => some '\u001b'
  | '"' => some '"'
  | '\\' => some '\\'
  | _ => none

def escape? : Reader Char
  | 'x' :: a :: b :: cs => (codePoint? [a, b]).map (·, cs)
  | 'u' :: a :: b :: c :: d :: cs => (codePoint? [a, b, c, d]).map (·, cs)
  | 'U' :: a :: b :: c :: d :: e :: f :: g :: h :: cs =>
    (codePoint? [a, b, c, d, e, f, g, h]).map (·, cs)
  | c :: cs => (simpleEscape? c).map (·, cs)
  | [] => none

theorem length_of_escape? {cs rest : List Char} {c : Char} (h : escape? cs = some (c, rest)) :
    rest.length < cs.length := by
  unfold escape? at h
  split at h <;> simp only [Option.map_eq_some_iff, Prod.mk.injEq, reduceCtorEq] at h <;>
    obtain ⟨_, _, _, rfl⟩ := h <;> simp only [List.length_cons] <;> omega

/-! ### Strings -/

/-- Put a character in front of what a reader read. -/
def consTo (c : Char) (read : List Char × List Char) : List Char × List Char :=
  (c :: read.1, read.2)

/-- Read a string up to its closing double quote. -/
def basicString? (cs : List Char) : Option (List Char × List Char) :=
  match cs with
  | [] => none
  | '"' :: cs => some ([], cs)
  | '\\' :: cs =>
    match _h : escape? cs with
    | some (c, rest) => (basicString? rest).map (consTo c)
    | none => none
  | c :: cs => if isLineChar c then (basicString? cs).map (consTo c) else none
termination_by cs.length
decreasing_by
  · have := length_of_escape? _h
    simp only [List.length_cons]
    omega
  · simp

/-- Read a string without escapes up to its closing single quote. -/
def literalString? : Reader (List Char)
  | [] => none
  | '\'' :: cs => some ([], cs)
  | c :: cs => if isLineChar c then (literalString? cs).map (consTo c) else none

/-- Skip spaces and line ends. -/
def skipLines : List Char → List Char
  | ' ' :: cs => skipLines cs
  | '\t' :: cs => skipLines cs
  | '\n' :: cs => skipLines cs
  | '\r' :: '\n' :: cs => skipLines cs
  | cs => cs

theorem length_skipLines_le (cs : List Char) : (skipLines cs).length ≤ cs.length := by
  fun_induction skipLines cs <;> simp_all <;> omega

/-- Take what follows a backslash at the end of a line: the rest of the line, which is empty, and
everything up to the next visible character. -/
def joinLines? (cs : List Char) : Option (List Char) := (newline? (skipSpaces cs)).map skipLines

theorem length_of_joinLines? {cs rest : List Char} (h : joinLines? cs = some rest) :
    rest.length < cs.length := by
  obtain ⟨r, hr, rfl⟩ := Option.map_eq_some_iff.1 h
  have h1 := length_of_newline? hr
  have h2 := length_dropWhile_le isSpace cs
  have h3 := length_skipLines_le r
  simp only [skipSpaces] at h1
  omega

/-- Read a string of several lines up to its three closing double quotes. One or two more quotes
before these belong to the string. -/
def multiBasicString? (cs : List Char) : Option (List Char × List Char) :=
  match cs with
  | [] => none
  | '"' :: '"' :: '"' :: '"' :: '"' :: cs => some (['"', '"'], cs)
  | '"' :: '"' :: '"' :: '"' :: cs => some (['"'], cs)
  | '"' :: '"' :: '"' :: cs => some ([], cs)
  | '\\' :: cs =>
    match _hj : joinLines? cs with
    | some rest => multiBasicString? rest
    | none =>
      match _h : escape? cs with
      | some (c, rest) => (multiBasicString? rest).map (consTo c)
      | none => none
  | '\r' :: '\n' :: cs => (multiBasicString? cs).map fun read => consTo '\r' (consTo '\n' read)
  | '\n' :: cs => (multiBasicString? cs).map (consTo '\n')
  | c :: cs => if isLineChar c then (multiBasicString? cs).map (consTo c) else none
termination_by cs.length
decreasing_by
  · have := length_of_joinLines? _hj
    simp only [List.length_cons]
    omega
  · have := length_of_escape? _h
    simp only [List.length_cons]
    omega
  all_goals
    simp only [List.length_cons]
    omega

/-- Read a string of several lines without escapes up to its three closing single quotes. -/
def multiLiteralString? : Reader (List Char)
  | [] => none
  | '\'' :: '\'' :: '\'' :: '\'' :: '\'' :: cs => some (['\'', '\''], cs)
  | '\'' :: '\'' :: '\'' :: '\'' :: cs => some (['\''], cs)
  | '\'' :: '\'' :: '\'' :: cs => some ([], cs)
  | '\r' :: '\n' :: cs => (multiLiteralString? cs).map fun read => consTo '\r' (consTo '\n' read)
  | '\n' :: cs => (multiLiteralString? cs).map (consTo '\n')
  | c :: cs => if isLineChar c then (multiLiteralString? cs).map (consTo c) else none

/-- Drop a line end at the front of a string of several lines. -/
def dropNewline (cs : List Char) : List Char := (newline? cs).getD cs

def string? : Reader String := fun cs =>
  let read := match cs with
    | '"' :: '"' :: '"' :: cs => multiBasicString? (dropNewline cs)
    | '"' :: cs => basicString? cs
    | '\'' :: '\'' :: '\'' :: cs => multiLiteralString? (dropNewline cs)
    | '\'' :: cs => literalString? cs
    | _ => none
  read.map fun (text, rest) => (String.ofList text, rest)

/-! ### Keys -/

/-- Read one part of a key. -/
def simpleKey? : Reader String := fun cs =>
  match cs with
  | '"' :: cs => (basicString? cs).map fun (text, rest) => (String.ofList text, rest)
  | '\'' :: cs => (literalString? cs).map fun (text, rest) => (String.ofList text, rest)
  | cs =>
    match cs.takeWhile isBareChar with
    | [] => none
    | name => some (String.ofList name, cs.dropWhile isBareChar)

/-- Read the parts of a key, separated by dots, of which the last is returned apart. Spaces around
the parts are skipped. -/
def keyParts? (cs : List Char) : Option ((List String × String) × List Char) :=
  match simpleKey? (skipSpaces cs) with
  | none => none
  | some (part, rest) =>
    match skipSpaces rest with
    | '.' :: after =>
      if _h : after.length < cs.length then
        (keyParts? after).map fun ((parts, last), rest) => ((part :: parts, last), rest)
      else none
    | rest => some (([], part), rest)
termination_by cs.length

/-- How many parts a key may have. -/
def maxParts : Nat := 80

def key? : Reader (List String × String) := fun cs => do
  let ((path, key), rest) ← keyParts? cs
  guard (path.length < maxParts)
  return ((path, key), rest)

end Rewinding.Toml
