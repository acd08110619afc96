import Rewinding.Config
import Rewinding.Failure

/-!
# The build graph

The structure of a graph: its actions and artifacts, what makes what, and which collection owns
which member. It comes from a checked description and never changes.
-/

namespace Rewinding

/-- The structure of a build graph. -/
structure Graph where
  actions : Std.ExtTreeMap ActionKey Action
  artifacts : Std.ExtTreeMap String Artifact
  /-- What the artifacts depend on that are not sources. -/
  producers : Std.ExtTreeMap String Producers
  /-- Members of trees and file sets. -/
  treeOwners : Owners
  /-- Members of collections of runfiles. -/
  runfilesOwners : Owners
  /-- The nodes that some action wants restarted along with itself. -/
  extraNodes : Std.ExtTreeSet Node

namespace Graph

/-! ### From a description -/

/-- Owners of the members of all collections of one kind. -/
def ownersOf (c : Config) (kind : ArtifactKind) : Owners :=
  Owners.ofPairs <| c.artifacts.toList.flatMap fun (path, declared) =>
    if declared.kind = kind then declared.members.map fun member => (member, ⟨path, kind⟩) else []

/-- The nodes that an action wants restarted along: what names an artifact of the graph stands for
its node. -/
def rewindDeps (artifacts : Std.ExtTreeMap String Artifact) (declared : ActionSection) : List Node :=
  declared.depNodes.map fun
    | .other name => if name ∈ artifacts then .artifact name else .other name
    | node => node

def actionOf (c : Config) (artifacts : Std.ExtTreeMap String Artifact) (key : ActionKey)
    (declared : ActionSection) : Action :=
  let deps := rewindDeps artifacts declared
  { key
    mnemonic := declared.mnemonic
    inputs := declared.inputs.map c.artifactFor
    outputs := declared.outputs.map c.artifactFor
    propagates := declared.propagates
    rewindDeps := if deps.isEmpty then none else some deps }

def ofConfig (c : Config) : Graph :=
  let artifacts := Std.ExtTreeMap.ofList (c.paths.map fun path => (path, c.artifactFor path))
  { actions := c.actions.map (actionOf c artifacts)
    artifacts
    producers := Std.ExtTreeMap.ofList
      (c.paths.filterMap fun path => (c.producersOf path).map fun p => (path, p))
    treeOwners := ownersOf c .tree
    runfilesOwners := ownersOf c .runfiles
    extraNodes := Std.ExtTreeSet.ofList
      (c.actions.toList.flatMap fun (_, declared) => rewindDeps artifacts declared) }

/-! ### Nodes -/

def nodes (g : Graph) : List Node :=
  (Std.ExtTreeSet.ofList
    (g.artifacts.keys.map .artifact ++ g.actions.keys.map .action ++ g.extraNodes.toList)).toList

/-- Whether the graph has an artifact, an action or another node of that name. -/
def contains (g : Graph) : Node → Bool
  | .artifact path => path ∈ g.artifacts
  | .action key => key ∈ g.actions
  | .other name => .other name ∈ g.extraNodes

/-! ### Queries -/

/-- All actions, in the order of their keys. -/
def roster (g : Graph) : List Action := g.actions.toList.map Prod.snd

def lookup (g : Graph) (key : ActionKey) : Except Failure { a : Action // a ∈ g.roster } :=
  match h : g.actions[key]? with
  | some a => .ok ⟨a, List.mem_map.2
      ⟨(key, a), Std.ExtTreeMap.mem_toList_iff_getElem?_eq_some.2 h, rfl⟩⟩
  | none => .error (.actionNotFound key)

def artifact (g : Graph) (path : String) : Except Failure Artifact :=
  match g.artifacts[path]? with
  | some a => .ok a
  | none => .error (.unknownArtifact path)

def directDeps (g : Graph) (key : ActionKey) : Except Failure (Std.ExtTreeSet Node) :=
  (g.lookup key).map fun a => a.1.directDeps

end Graph

end Rewinding
