import Rewinding.Text.Hexadecimal
import Rewinding.Text.Visible

/-!
# Quoted texts

A quoted text stands between double quotes. Quotes, backslashes and the usual controls are written
with a backslash; a character that cannot be seen is written as its code point in hexadecimal.
-/

namespace Rewinding.Text

/-- How a quoted text writes `c`. -/
def quotedChar (c : Char) : List Char :=
  match c with
  | '"' => ['\\', '"']
  | '\\' => ['\\', '\\']
  | '\n' => ['\\', 'n']
  | '\r' => ['\\', 'r']
  | '\t' => ['\\', 't']
  | '\u0000' => ['\\', '0']
  | c => if isVisible c then [c] else ['\\', 'u', '\x7b'] ++ hexDigits c.toNat ++ ['\x7d']

/-- The quoted form of `s`. -/
def quoted (s : String) : String := String.ofList ('"' :: s.toList.flatMap quotedChar ++ ['"'])

/-- The quoted forms of some texts, between square brackets. -/
def quotedList (texts : List String) : String := "[" ++ ", ".intercalate (texts.map quoted) ++ "]"

end Rewinding.Text
