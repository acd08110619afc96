import Rewinding.ActionKey

/-!
# Nodes of the build graph

A node stands for an artifact, named by its path, for an action, named by its key, or for something
else that is evaluated along with them and only has a name. All artifacts come before all actions,
and these before all others; within a kind the order is that of the names.
-/

namespace Rewinding

/-- Identity of a node in the build graph. -/
inductive Node where
  | artifact (path : String)
  | action (key : ActionKey)
  | other (name : String)
  deriving DecidableEq, Repr, Inhabited

namespace Node

def text : Node → String
  | .artifact path => "artifact:" ++ path
  | .action key => "action:" ++ key.text
  | .other name => "node:" ++ name

def actionKey? : Node → Option ActionKey
  | .action key => some key
  | _ => none

/-! ### Order -/

/-- The place of a node's kind among the kinds. -/
def level : Node → Nat
  | .artifact _ => 0
  | .action _ => 1
  | .other _ => 2

/-- What nodes of one kind are ordered by. -/
def name : Node → ActionKey
  | .artifact path => ⟨path, 0⟩
  | .action key => key
  | .other name => ⟨name, 0⟩

instance : Ord Node where
  compare := compareLex (compareOn level) (compareOn name)

instance : Std.TransOrd Node :=
  inferInstanceAs (Std.TransCmp (compareLex (compareOn level) (compareOn name)))

theorem eq_of_level_of_name {a b : Node} (hl : a.level = b.level) (hn : a.name = b.name) :
    a = b := by
  cases a <;> cases b <;> simp_all [level, name]

instance : Std.LawfulEqOrd Node where
  eq_of_compare {a b} h := by
    obtain ⟨hl, hn⟩ := Ordering.then_eq_eq.1 (show (compareOn level a b).then
      (compareOn name a b) = .eq from h)
    exact eq_of_level_of_name (Std.LawfulEqOrd.eq_of_compare hl) (Std.LawfulEqOrd.eq_of_compare hn)

end Node

end Rewinding
