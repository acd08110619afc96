/-!
# Decimal numerals for 32-bit numbers

A numeral is an optional `+` and at least one ASCII digit. Reading goes from left to right and
stops at the first character that cannot be taken, so a text can be wrong in one way only: the
first fault from the left is the one reported.
-/

namespace Rewinding.Text

/-- Why a text is no numeral of a 32-bit number. -/
inductive NumeralFault where
  | empty
  | invalidDigit
  | tooLarge
  deriving DecidableEq, Repr

def NumeralFault.message : NumeralFault → String
  | .empty => "cannot parse integer from empty string"
  | .invalidDigit => "invalid digit found in string"
  | .tooLarge => "number too large to fit in target type"

/-- The value of an ASCII digit. -/
def digitValue (c : Char) : Nat := c.toNat - '0'.toNat

/-- Read the digits of `cs` after those whose value is `value`. -/
def readDigits (value : Nat) : List Char → Except NumeralFault Nat
  | [] => .ok value
  | c :: cs =>
    if c.isDigit then
      let next := 10 * value + digitValue c
      if next < UInt32.size then readDigits next cs else .error .tooLarge
    else .error .invalidDigit

def readUnsigned : List Char → Except NumeralFault Nat
  | [] => .error .invalidDigit
  | cs => readDigits 0 cs

def readNumeral : List Char → Except NumeralFault UInt32
  | [] => .error .empty
  | '+' :: cs => (readUnsigned cs).map UInt32.ofNat
  | cs => (readUnsigned cs).map UInt32.ofNat

/-- The decimal digits of `n`, without leading zeros. -/
def numeral (n : Nat) : String := String.ofList (Nat.toDigits 10 n)

end Rewinding.Text
