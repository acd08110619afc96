import Rewinding.Action
import Rewinding.Failure

/-!
# Which dependency is responsible for a lost input

An executor loses single files, but the failed action may depend on a collection that contains them.
A lost input is attributed to the first of these that is a direct dependency of the failed action:
the input itself, the tree or file set that owns it, the collection of runfiles that owns it, and
the collection of runfiles that owns that tree. If none is, nothing is to be restarted for it.
-/

namespace Rewinding

/-- What lost inputs are attributed by: who owns them, and what the failed action depends on. -/
structure Ownership where
  /-- The trees and file sets that own members. -/
  collections : OwnerLookup
  /-- The collections of runfiles that own members. -/
  runfiles : OwnerLookup
  directDeps : Std.ExtTreeSet Node

/-- Responsible artifacts, each with the lost inputs it accounts for. -/
abbrev Responsible := Std.ExtTreeMap Artifact (Std.ExtTreeSet Input)

/-- One more input that `owner` accounts for. -/
def Responsible.add (r : Responsible) (owner : Artifact) (input : Input) : Responsible :=
  r.insert owner ((r[owner]?.getD ∅).insert input)

namespace Ownership

/-- Whether the failed action depends on an artifact directly. -/
def isDirect (o : Ownership) (a : Artifact) : Bool := o.directDeps.contains a.node

/-- The collection responsible for an input that is no direct dependency itself. -/
def collectionFor (o : Ownership) (input : Input) : Option Artifact :=
  let owner := o.collections.ownerOf input.path
  owner.filter o.isDirect <|>
    (o.runfiles.ownerOf input.path).filter o.isDirect <|>
    (owner.bind fun tree => o.runfiles.ownerOf tree.path).filter o.isDirect

/-- Attribute one lost input. An input that is a direct dependency but no artifact shows a defect of
the graph engine. -/
def responsibleFor (o : Ownership) (failed : ActionKey) (input : Input) :
    Except Failure (Option Artifact) :=
  if input.node ∈ o.directDeps then
    match input.artifact? with
    | some a => .ok (some a)
    | none => .error (.virtualDependency input.path failed)
  else .ok (o.collectionFor input)

def addInput (o : Ownership) (failed : ActionKey) (r : Responsible) (input : Input) :
    Except Failure Responsible :=
  match o.responsibleFor failed input with
  | .error failure => .error failure
  | .ok none => .ok r
  | .ok (some owner) => .ok (r.add owner input)

def resolve (o : Ownership) (failed : ActionKey) (inputs : List Input) :
    Except Failure Responsible :=
  inputs.foldlM (o.addInput failed) ∅

end Ownership

end Rewinding
