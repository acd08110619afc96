import Std.Data.ExtTreeSet
import Rewinding.Node

/-!
# Restart directives

A directive to the graph engine: restart one node, which is being evaluated now, together with
others.
-/

namespace Rewinding

/-- A node to restart and the other nodes to restart with it. -/
structure Restart where
  self : Node
  others : Std.ExtTreeSet Node

namespace Restart

def of (self : Node) (nodes : Std.ExtTreeSet Node) : Restart := ⟨self, nodes.erase self⟩

/-- All nodes to restart, the current one first. -/
def nodes (r : Restart) : List Node := r.self :: r.others.toList

def size (r : Restart) : Nat := r.others.size + 1

def contains (r : Restart) (node : Node) : Bool := node = r.self || r.others.contains node

/-- Whether nothing is restarted, which never happens. -/
def isEmpty (_ : Restart) : Bool := false

end Restart

end Rewinding
