import Rewinding.LogLevel
import Rewinding.Text.Blank
import Rewinding.Text.Pattern
import Rewinding.Text.Slice

/-!
# Directives of a log filter

A directive is a level for everything, or a target with a level; a target alone stands for the finest
level. After the target, or in its place, brackets may hold a span, and braces in the brackets a
field with the value that it must have:

    target[span{field=value}]=level

Names are not looked into, so reading leaves the finest level that a directive lets through. One that
weighs values lets everything through, since the values are known too late.

Blanks around a directive decide nothing about its form, but they belong to the level or the target
beside them: the parts are found in the trimmed directive, and the same offsets are then taken in the
directive as it is written.
-/

namespace Rewinding.Directive

inductive Fault where
  | unreadable
  /-- A part of the directive would start or end inside a character. -/
  | split (char : Text.SplitChar)
  deriving DecidableEq, Repr

/-- Characters with the offsets, in bytes, at which they start. -/
abbrev Placed := List (Nat × Char)

/-- The characters of a text of which `before` bytes precede these. -/
def placed (before : Nat) : List Char → Placed
  | [] => []
  | c :: cs => (before, c) :: placed (before + c.utf8Size) cs

def need (value : Option α) : Except Fault α := value.elim (.error .unreadable) .ok

def part (text : List Char) (start stop : Nat) : Except Fault (List Char) :=
  (Text.slice text start stop).mapError .split

def partFrom (text : List Char) (start : Nat) : Except Fault (List Char) :=
  (Text.sliceFrom text start).mapError .split

/-! ### Values of fields -/

/-- Take a sign, if there is one. -/
def dropSign : List Char → List Char
  | '+' :: cs => cs
  | '-' :: cs => cs
  | cs => cs

/-- Whether `cs` is a number with a fraction, an exponent, both or neither. -/
def isDecimal (cs : List Char) : Bool :=
  let isMark (c : Char) : Bool := c = 'e' || c = 'E'
  let front := cs.takeWhile fun c => !isMark c
  let whole := front.takeWhile Char.isDigit
  let exponent := dropSign ((cs.dropWhile fun c => !isMark c).drop 1)
  let isFront := match front.dropWhile Char.isDigit with
    | [] => !whole.isEmpty
    | '.' :: fraction => fraction.all Char.isDigit && !(whole.isEmpty && fraction.isEmpty)
    | _ => false
  isFront && (front.length = cs.length || !exponent.isEmpty && exponent.all Char.isDigit)

/-- Whether `cs` is a number, infinity or not-a-number. -/
def isNumber (cs : List Char) : Bool :=
  let cs := dropSign cs
  isDecimal cs || String.ofList (cs.map Char.toLower) ∈ ["inf", "infinity", "nan"]

/-- Whether a field may be required to have the value `cs`: any number, or what a pattern finds. -/
def isValue (cs : List Char) : Bool := isNumber cs || Text.isPattern cs

/-- Read a field: whether it has a value. What follows a second equals sign is skipped. -/
def field (cs : List Char) : Except Fault Bool :=
  if cs.isEmpty then .error .unreadable
  else
    match cs.dropWhile (· ≠ '=') with
    | [] => .ok false
    | _ :: value => if isValue (value.takeWhile (· ≠ '=')) then .ok true else .error .unreadable

/-! ### Parts of directives -/

def levelFrom (text : List Char) (start : Nat) : Except Fault LogLevel := do
  match ← partFrom text start with
  | [] => return .trace
  | word => need (LogLevel.parse? word)

def afterSpan (text : List Char) : Placed → Except Fault LogLevel
  | [] => .ok .trace
  | (i, '=') :: _ => levelFrom text (i + 1)
  | _ => .error .unreadable

/-- Read a field from `start` on, and what follows it. -/
def fromField (text : List Char) (start : Nat) (cs : Placed) : Except Fault LogLevel :=
  match cs.dropWhile fun (_, c) => c ≠ '\x7d' with
  | (i, _) :: cs => do
    let hasValue ← field (← part text start i)
    match cs with
    | (_, ']') :: cs => do
      let level ← afterSpan text cs
      return if hasValue then .trace else level
    | _ => .error .unreadable
  | [] => .error .unreadable

/-- Read a span from `start` on, and what follows it. -/
def fromSpan (text : List Char) (start : Nat) (cs : Placed) : Except Fault LogLevel :=
  match cs.dropWhile fun (_, c) => c ≠ ']' && c ≠ '\x7b' with
  | (i, c) :: cs => do
    let _ ← part text start i
    if c = ']' then afterSpan text cs else fromField text (i + 1) cs
  | [] => .error .unreadable

/-- Whether a level or a target may start with `c`. -/
def isInitial (c : Char) : Bool := Text.isAlphanumeric c || c ∈ ['-', ':', '_']

/-- The finest level of what a directive lets through. -/
def finest (text : List Char) : Except Fault LogLevel :=
  match placed 0 (Text.trim text) with
  | [] => .error .unreadable
  | (i, '[') :: cs => fromSpan text (i + 1) cs
  | (i, c) :: cs =>
    if isInitial c then
      match cs.dropWhile fun (_, c) => c ≠ '=' && c ≠ '[' with
      | [] => .ok ((LogLevel.parse? text).getD .trace)
      | (j, c) :: cs => do
        let _ ← part text i j
        if c = '=' then levelFrom text (j + 1) else fromSpan text (j + 1) cs
    else .error .unreadable

end Rewinding.Directive
