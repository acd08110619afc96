import Rewinding.Toml.Lexical
import Rewinding.Toml.Value

/-!
# TOML values of one word

Booleans, integers, floats and dates are written without quotes. `scalar?` takes everything up to the
next blank or mark of punctuation and reads it as a whole. A word can have the form of an integer and
yet no value: `0x`, or `1_a`.
-/

namespace Rewinding.Toml

open Text (isHexDigit ofDigits)

/-! ### Numbers -/

/-- The digits of a run in which single underscores may stand between two digits. -/
def ungroup? (isDigit : Char → Bool) : List Char → Option (List Char)
  | [] => none
  | [c] => if isDigit c then some [c] else none
  | c :: '_' :: cs => if isDigit c then (ungroup? isDigit cs).map (c :: ·) else none
  | c :: cs => if isDigit c then (ungroup? isDigit cs).map (c :: ·) else none

/-- Split off a sign. -/
def splitSign : List Char → Option Char × List Char
  | '+' :: cs => (some '+', cs)
  | '-' :: cs => (some '-', cs)
  | cs => (none, cs)

/-- The decimal number with a sign and the digits `ds`. -/
def ofSigned (sign : Option Char) (ds : List Char) : Int :=
  if sign = some '-' then -(ofDigits 10 ds : Int) else (ofDigits 10 ds : Int)

/-- Whether `c` ends the part of a float before the exponent. -/
def isExponentMark (c : Char) : Bool := c = 'e' || c = 'E'

/-- Read the digits of an integer behind the letter of its base. Without any digit it has no
value. -/
def radixDigits? (base : Nat) (isDigit : Char → Bool) : List Char → Option (Option Int)
  | [] => some none
  | cs => (ungroup? isDigit cs).map fun ds => some (ofDigits base ds)

/-- Read an integer in base two, eight or sixteen. -/
def radixInteger? : List Char → Option (Option Int)
  | '0' :: 'x' :: cs => radixDigits? 16 isHexDigit cs
  | '0' :: 'o' :: cs => radixDigits? 8 (fun c => '0' ≤ c && c ≤ '7') cs
  | '0' :: 'b' :: cs => radixDigits? 2 (fun c => c = '0' || c = '1') cs
  | _ => none

/-- The first group of those that the underscores of a word separate, and the later ones. -/
def groups : List Char → List Char × List (List Char)
  | [] => ([], [])
  | c :: cs =>
    let (group, later) := groups cs
    if c = '_' then ([], group :: later) else (c :: group, later)

/-- Whether a group may follow an underscore in an integer. Hexadecimal digits must stand beside
the underscores. -/
def isLaterGroup (isLast : Bool) (group : List Char) : Bool :=
  group.head?.any isHexDigit && (isLast || group.getLast?.any isHexDigit)

/-- Whether all groups behind the first one may stand in an integer. -/
def areLaterGroups : List (List Char) → Bool
  | [] => true
  | group :: later => isLaterGroup later.isEmpty group && areLaterGroups later

/-- Whether the first group of a decimal integer may be followed by some number of others. It has
digits only, of which the first is a zero only if it is all there is. -/
def isFirstGroup (later : Nat) (group : List Char) : Bool :=
  match group with
  | [] => false
  | ['0'] => later = 0
  | '0' :: _ => false
  | _ => group.all Char.isDigit

/-- Read a decimal integer. One that has other characters than digits in its later groups is an
integer without a value. -/
def decimalInteger? (cs : List Char) : Option (Option Int) :=
  let (sign, unsigned) := splitSign cs
  let (first, later) := groups unsigned
  let isWritten := isFirstGroup later.length first && areLaterGroups later &&
    !unsigned.any fun c => c = '.' || isExponentMark c
  let digits := first ++ later.flatten
  if isWritten then some (if digits.all Char.isDigit then some (ofSigned sign digits) else none)
  else none

def exponent? (cs : List Char) : Option Int :=
  let (sign, digits) := splitSign cs
  (ungroup? Char.isDigit digits).map (ofSigned sign)

/-- The digits of a float before its point, of which no needless zero stands in front. -/
def wholeDigits? (cs : List Char) : Option (List Char) := do
  let ds ← ungroup? Char.isDigit cs
  guard (ds.length = 1 ∨ ds.head? ≠ some '0')
  return ds

/-- Read a float: a whole number followed by a fraction, an exponent or both. -/
def decimalFloat? (cs : List Char) : Option FloatText := do
  let (_, unsigned) := splitSign cs
  let front := unsigned.takeWhile fun c => !isExponentMark c
  let exponent ← match unsigned.dropWhile fun c => !isExponentMark c with
    | [] => some 0
    | _ :: cs => exponent? cs
  let whole ← wholeDigits? (front.takeWhile (· ≠ '.'))
  match front.dropWhile (· ≠ '.') with
  | [] =>
    guard (front.length < unsigned.length)
    return .decimal (ofDigits 10 whole) exponent
  | _ :: cs =>
    let fraction ← ungroup? Char.isDigit cs
    return .decimal (ofDigits 10 (whole ++ fraction)) (exponent - fraction.length)

/-- Read infinity or not-a-number. -/
def wordFloat? (cs : List Char) : Option FloatText :=
  let (_, word) := splitSign cs
  if word = ['i', 'n', 'f'] ∨ word = ['n', 'a', 'n'] then some .word else none

/-- Whether a float is too large for one of 64 bits. The largest of these is `2 ^ 1024 - 2 ^ 971`,
and half a unit of its last place above it rounding goes up. -/
def FloatText.overflows : FloatText → Bool
  | .word => false
  | .decimal 0 _ => false
  | .decimal mantissa exponent =>
    let magnitude : Int := (Nat.toDigits 10 mantissa).length + exponent
    if 400 < magnitude then true
    else if magnitude < 0 then false
    else
      let limit := Nat.pow 2 1024 - Nat.pow 2 970
      if 0 ≤ exponent then limit ≤ mantissa * Nat.pow 10 exponent.toNat
      else limit * Nat.pow 10 (-exponent).toNat ≤ mantissa

/-! ### Dates -/

/-- The number that two digits write. -/
def twoDigits? (a b : Char) : Option Nat :=
  if a.isDigit && b.isDigit then some (ofDigits 10 [a, b]) else none

/-- How many days a month has. -/
def daysIn (year month : Nat) : Nat :=
  if month = 2 then
    if year % 4 = 0 ∧ (year % 100 ≠ 0 ∨ year % 400 = 0) then 29 else 28
  else if month = 4 ∨ month = 6 ∨ month = 9 ∨ month = 11 then 30 else 31

/-- Take a date and return the rest. -/
def takeDate? : List Char → Option (List Char)
  | y₁ :: y₂ :: y₃ :: y₄ :: '-' :: m₁ :: m₂ :: '-' :: d₁ :: d₂ :: cs => do
    let century ← twoDigits? y₁ y₂
    let year ← twoDigits? y₃ y₄
    let month ← twoDigits? m₁ m₂
    let day ← twoDigits? d₁ d₂
    guard (1 ≤ month ∧ month ≤ 12 ∧ 1 ≤ day ∧ day ≤ daysIn (100 * century + year) month)
    return cs
  | _ => none

/-- Take a fraction of a second, if there is one. -/
def takeFraction? : List Char → Option (List Char)
  | '.' :: c :: cs => if c.isDigit then some (cs.dropWhile Char.isDigit) else none
  | '.' :: [] => none
  | cs => some cs

/-- Take a time of the day, whose seconds may be left out, and return the rest. -/
def takeTime? : List Char → Option (List Char)
  | h₁ :: h₂ :: ':' :: m₁ :: m₂ :: cs => do
    let hour ← twoDigits? h₁ h₂
    let minute ← twoDigits? m₁ m₂
    guard (hour ≤ 23 ∧ minute ≤ 59)
    match cs with
    | ':' :: s₁ :: s₂ :: cs => do
      let second ← twoDigits? s₁ s₂
      guard (second ≤ 60)
      takeFraction? cs
    | cs => return cs
  | _ => none

/-- Whether `cs` is the offset of a time zone. -/
def isOffset : List Char → Bool
  | ['Z'] | ['z'] => true
  | [sign, h₁, h₂, ':', m₁, m₂] =>
    (sign = '+' || sign = '-') &&
      match twoDigits? h₁ h₂, twoDigits? m₁ m₂ with
      | some hour, some minute => hour ≤ 23 && minute ≤ 59
      | _, _ => false
  | _ => false

/-- Whether `cs` is a time of the day. -/
def isTime (cs : List Char) : Bool := takeTime? cs = some []

/-- Whether `cs` is a date, with a time and an offset or without. -/
def isDate (cs : List Char) : Bool :=
  match takeDate? cs with
  | none => false
  | some [] => true
  | some (c :: rest) =>
    (c = 'T' || c = 't' || c = ' ') &&
      match takeTime? rest with
      | none => false
      | some [] => true
      | some rest => isOffset rest

/-! ### Any value of one word -/

def word? (cs : List Char) : Option Value :=
  if cs = ['t', 'r', 'u', 'e'] then some (.boolean true)
  else if cs = ['f', 'a', 'l', 's', 'e'] then some (.boolean false)
  else if isDate cs || isTime cs then some .date
  else
    match radixInteger? cs <|> decimalInteger? cs with
    | some n => some (.integer n)
    | none => ((wordFloat? cs <|> decimalFloat? cs)).map .float

/-- Whether `c` can belong to a word: it is no blank and has no meaning of its own. -/
def isWordChar (c : Char) : Bool :=
  c ∉ [' ', '\t', '\r', '\n', '=', ',', '[', ']', '{', '}', '#']

/-- Read a value of one word. A space may stand between a date and a time. -/
def scalar? : Reader Value := fun cs =>
  let first := cs.takeWhile isWordChar
  match cs.dropWhile isWordChar with
  | ' ' :: c :: rest =>
    if c.isDigit && isDate first then
      let second := (c :: rest).takeWhile isWordChar
      (word? (first ++ ' ' :: second)).map (·, (c :: rest).dropWhile isWordChar)
    else (word? first).map (·, ' ' :: c :: rest)
  | rest => (word? first).map (·, rest)

end Rewinding.Toml
