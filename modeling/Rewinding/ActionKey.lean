import Std.Data.ExtTreeMap
import Rewinding.Text.Blank
import Rewinding.Text.Numeral

/-!
# Action keys

An action keeps its identity across restarts: the label of the target that registered it and its
position among that target's actions. Keys are written `owner#index`, for instance `//pkg:lib#0`.

* `ActionKey.text` writes a key, `ActionKey.parse` reads one;
* keys are ordered by owner, then by index.
-/

namespace Rewinding

/-- Stable identity of an action. -/
@[ext]
structure ActionKey where
  owner : String
  index : UInt32
  deriving DecidableEq, Repr, Inhabited

namespace ActionKey

/-! ### Order -/

instance : Ord ActionKey where
  compare := compareLex (compareOn ActionKey.owner) (compareOn ActionKey.index)

instance : Std.TransOrd ActionKey :=
  inferInstanceAs (Std.TransCmp (compareLex (compareOn ActionKey.owner) (compareOn ActionKey.index)))

instance : Std.LawfulEqOrd ActionKey where
  eq_of_compare {a b} h := by
    obtain ⟨ho, hi⟩ := Ordering.then_eq_eq.1 (show (compareOn ActionKey.owner a b).then
      (compareOn ActionKey.index a b) = .eq from h)
    exact ActionKey.ext (Std.LawfulEqOrd.eq_of_compare ho) (Std.LawfulEqOrd.eq_of_compare hi)

/-! ### Text -/

/-- The written form `owner#index`. -/
def text (key : ActionKey) : String := key.owner ++ "#" ++ Text.numeral key.index.toNat

inductive Fault where
  | noSeparator
  | emptyOwner
  | badIndex (fault : Text.NumeralFault)
  deriving DecidableEq, Repr

structure Malformed where
  text : String
  fault : Fault
  deriving DecidableEq, Repr

/-- The wording of a malformed key; it quotes the text as it was given. -/
def Malformed.message (e : Malformed) : String :=
  "invalid action key: " ++ e.text ++
    match e.fault with
    | .noSeparator => " (expected \"<owner>#<index>\")"
    | .emptyOwner => " (empty owner)"
    | .badIndex fault => " (" ++ fault.message ++ ")"

/-- Cut `cs` at the last `sep`. -/
def splitLast (sep : Char) : List Char → Option (List Char × List Char)
  | [] => none
  | c :: cs =>
    match splitLast sep cs with
    | some (before, after) => some (c :: before, after)
    | none => if c = sep then some ([], cs) else none

def parseTrimmed (cs : List Char) : Except Fault ActionKey :=
  match splitLast '#' cs with
  | none => .error .noSeparator
  | some ([], _) => .error .emptyOwner
  | some (owner, index) =>
    match Text.readNumeral index with
    | .ok index => .ok ⟨String.ofList owner, index⟩
    | .error fault => .error (.badIndex fault)

/-- Read a key. Blanks at the ends are dropped, the owner reaches to the last `#`, and what follows
it is the numeral of the index. -/
def parse (s : String) : Except Malformed ActionKey :=
  match parseTrimmed (Text.trim s.toList) with
  | .ok key => .ok key
  | .error fault => .error ⟨s, fault⟩

end ActionKey

end Rewinding
