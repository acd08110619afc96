import Std.Data.ExtTreeMap
import Rewinding.Artifact
import Rewinding.ReportMode

/-!
# Graph descriptions

A description is what a file says about a build graph, before anything is checked: settings, the
artifacts it declares, and the actions. Every part may be left out.
-/

namespace Rewinding

structure Settings where
  reportMode : ReportMode := .log
  /-- How many times one action may be rewound within a build. -/
  maxRewinds : UInt32 := 10
  deriving DecidableEq, Repr, Inhabited

/-- What a description says of one artifact. -/
structure ArtifactSection where
  kind : ArtifactKind := .derived
  /-- Paths that a tree or a collection of runfiles owns. -/
  members : List String := []
  /-- For a tree that an action template makes: the actions the template expanded to. -/
  expandedActions : List String := []
  deriving DecidableEq, Repr, Inhabited

/-- What a description says of one action. -/
structure ActionSection where
  mnemonic : String := "Action"
  inputs : List String := []
  outputs : List String := []
  propagates : Bool := false
  rewindDeps : List String := []
  deriving DecidableEq, Repr, Inhabited

/-- A graph description: artifacts by path, actions by the text of their key. -/
structure Description where
  settings : Settings := {}
  artifacts : Std.ExtTreeMap String ArtifactSection := ∅
  actions : Std.ExtTreeMap String ActionSection := ∅

namespace ActionSection

/-- The node that a text among the `rewindDeps` names on its own: an action's if it reads as a key,
and otherwise one that is neither artifact nor action. -/
def depNode (dep : String) : Node :=
  match ActionKey.parse dep with
  | .ok key => .action key
  | .error _ => .other dep

/-- The nodes that the `rewindDeps` name on their own. -/
def depNodes (a : ActionSection) : List Node := a.rewindDeps.map depNode

end ActionSection

end Rewinding
