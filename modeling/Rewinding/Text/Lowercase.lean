import Rewinding.Text.Lowercase.Table

/-!
# Lowercase of a text

Most characters have a lowercase form of their own. Two depend on more: the dotted capital I becomes
two characters, and a capital sigma becomes a final sigma at the end of a word.
-/

namespace Rewinding.Text

namespace Lowercase

/-- Whether a table of ranges has `c`. -/
def inRanges (ranges : List (Nat × Nat)) (c : Char) : Bool :=
  ranges.any fun (first, last) => first ≤ c.toNat && c.toNat ≤ last

/-- The lowercase of a character on its own. -/
def single (c : Char) : Char :=
  let n := c.toNat
  match shifts.find? fun (first, last, step, _) => first ≤ n && n ≤ last && (n - first) % step == 0 with
  | some (_, _, _, shift) => Char.ofNat (n + shift).toNat
  | none => c

/-- Whether the first character that case does not ignore is a cased one. -/
def meetsCased (cs : List Char) : Bool :=
  match cs.dropWhile (inRanges caseIgnorable) with
  | [] => false
  | c :: _ => inRanges cased c

/-- The lowercase of a sigma between `before`, given backwards, and `after`. -/
def sigma (before after : List Char) : Char :=
  if meetsCased before && !meetsCased after then 'ς' else 'σ'

/-- The lowercase of the characters that follow `before`, which is given backwards. -/
def after (before : List Char) : List Char → List Char
  | [] => []
  | c :: cs =>
    let here := match c with
      | 'Σ' => [sigma before cs]
      | 'İ' => ['i', '\u0307']
      | c => [single c]
    here ++ after (c :: before) cs

end Lowercase

def lowercase (cs : List Char) : List Char := Lowercase.after [] cs

end Rewinding.Text
