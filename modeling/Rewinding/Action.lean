import Std.Data.ExtTreeSet
import Rewinding.Artifact

/-!
# Actions and what makes an artifact
-/

namespace Rewinding

/-- A unit of work that makes artifacts. -/
structure Action where
  key : ActionKey
  mnemonic : String := "Action"
  inputs : List Artifact := []
  outputs : List Artifact := []
  /-- Whether the action may pass an unpredictable part of its inputs on to its outputs. Restarting
  such an action alone does not make a lost input again. -/
  propagates : Bool := false
  /-- Nodes to restart together with the action although it does not read them. `none` for an
  action that does not know of the graph. -/
  rewindDeps : Option (List Node) := none
  deriving DecidableEq, Repr, Inhabited

namespace Action

def node (a : Action) : Node := .action a.key

/-- The inputs that some action makes, in order. -/
def derivedInputs (a : Action) : List Artifact := a.inputs.filter fun i => !i.isSource

/-- The nodes that the action depends on directly. -/
def directDeps (a : Action) : Std.ExtTreeSet Node :=
  Std.ExtTreeSet.ofList (a.inputs.map Artifact.node)

end Action

/-- The actions that an artifact depends on: the one that makes it or, for a tree made by an action
template, those that the template expanded to. -/
inductive Producers where
  | single (key : ActionKey)
  | expansion (keys : Std.ExtTreeSet ActionKey)

namespace Producers

def single? : Producers → Option ActionKey
  | .single key => some key
  | .expansion _ => none

def expansion? : Producers → Option (Std.ExtTreeSet ActionKey)
  | .single _ => none
  | .expansion keys => some keys

def keys : Producers → List ActionKey
  | .single key => [key]
  | .expansion keys => keys.toList

end Producers

end Rewinding
