import Rewinding.Action
import Rewinding.Description

/-!
# Checked graph descriptions

A `Config` is a description that passed every check (`Config/Validate`): its action names are keys,
each derived artifact has exactly one way to be made, and no action depends on itself.
-/

namespace Rewinding

/-- The keys that the templates of trees expanded to, by the path of the tree. -/
abbrev Expansions := Std.ExtTreeMap String (Std.ExtTreeSet ActionKey)

structure Config where
  settings : Settings
  artifacts : Std.ExtTreeMap String ArtifactSection
  actions : Std.ExtTreeMap ActionKey ActionSection
  makers : Std.ExtTreeMap String ActionKey
  expansions : Expansions

namespace Config

def producerOf (c : Config) (path : String) : Option ActionKey := c.makers[path]?

/-- The actions that the template of the tree at `path` expanded to. -/
def expansionOf (c : Config) (path : String) : Option (Std.ExtTreeSet ActionKey) :=
  c.expansions[path]?

/-- The artifact at `path`. A declared artifact keeps its kind; any other path is derived if an
action outputs it, and a source if not. -/
def artifactFor (c : Config) (path : String) : Artifact :=
  match c.artifacts[path]? with
  | some declared => ⟨path, declared.kind⟩
  | none => ⟨path, if (c.producerOf path).isSome then .derived else .source⟩

/-- What the artifact at `path` depends on. -/
def producersOf (c : Config) (path : String) : Option Producers :=
  match c.producerOf path with
  | some key => some (.single key)
  | none => (c.expansionOf path).map .expansion

/-- Every path that is declared, read or output; members do not count. -/
def paths (c : Config) : List String :=
  (Std.ExtTreeSet.ofList
    (c.artifacts.keys ++ c.actions.toList.flatMap fun (_, a) => a.inputs ++ a.outputs)).toList

end Config

end Rewinding
