import Rewinding.Config
import Rewinding.Config.Rejection
import Rewinding.Precedence

/-!
# Checking a graph description

`Description.validate` makes a `Config` of a description or says what is wrong with it. The checks
run in a fixed order, each over the sections in the order of their names, and the first fault ends
them:

1. there are actions, and an action may be rewound at least once;
2. the names of actions are keys (two names of one key: the later section counts);
3. no output is a source, an input of the same action, or the output of another;
4. only trees are made by templates, of actions that exist, and not by another action as well;
5. whatever is not a source is made by something; only collections have members, not themselves,
   and no member twice;
6. no action depends on itself.
-/

namespace Rewinding

namespace Config

/-! ### Actions -/

def addAction (table : Std.ExtTreeMap ActionKey ActionSection) (named : String × ActionSection) :
    Except Rejection (Std.ExtTreeMap ActionKey ActionSection) :=
  match ActionKey.parse named.1 with
  | .ok key => .ok (table.insert key named.2)
  | .error malformed => .error (.malformedKey malformed)

def readActions (sections : List (String × ActionSection)) :
    Except Rejection (Std.ExtTreeMap ActionKey ActionSection) :=
  sections.foldlM addAction ∅

/-! ### Who makes what -/

/-- Every output with the action that lists it, in the order of the actions. -/
def outputs (table : Std.ExtTreeMap ActionKey ActionSection) :
    List (ActionKey × ActionSection × String) :=
  table.toList.flatMap fun (key, action) => action.outputs.map fun path => (key, action, path)

def declaredSource (artifacts : Std.ExtTreeMap String ArtifactSection) (path : String) : Bool :=
  match artifacts[path]? with
  | some declared => declared.kind = .source
  | none => false

def addOutput (artifacts : Std.ExtTreeMap String ArtifactSection)
    (makers : Std.ExtTreeMap String ActionKey) (output : ActionKey × ActionSection × String) :
    Except Rejection (Std.ExtTreeMap String ActionKey) :=
  let (key, action, path) := output
  if declaredSource artifacts path then .error (.sourceOutput key path)
  else if path ∈ action.inputs then .error (.inputAndOutput key path)
  else
    match makers[path]? with
    | some first => .error (.producedTwice path first key)
    | none => .ok (makers.insert path key)

def readMakers (artifacts : Std.ExtTreeMap String ArtifactSection)
    (table : Std.ExtTreeMap ActionKey ActionSection) :
    Except Rejection (Std.ExtTreeMap String ActionKey) :=
  (outputs table).foldlM (addOutput artifacts) ∅

/-! ### Templates -/

def addExpanded (table : Std.ExtTreeMap ActionKey ActionSection) (path : String)
    (keys : Std.ExtTreeSet ActionKey) (name : String) :
    Except Rejection (Std.ExtTreeSet ActionKey) :=
  match ActionKey.parse name with
  | .error malformed => .error (.malformedKey malformed)
  | .ok key => if key ∈ table then .ok (keys.insert key) else .error (.unknownExpanded path key)

/-- Note what the template of one artifact expanded to, if there is one. -/
def addExpansion (table : Std.ExtTreeMap ActionKey ActionSection)
    (makers : Std.ExtTreeMap String ActionKey) (expansions : Expansions)
    (declared : String × ArtifactSection) : Except Rejection Expansions :=
  let (path, artifact) := declared
  if artifact.expandedActions.isEmpty then .ok expansions
  else if artifact.kind ≠ .tree then .error (.expandedNotTree path)
  else
    match makers[path]? with
    | some producer => .error (.expandedAndProduced path producer)
    | none =>
      match artifact.expandedActions.foldlM (addExpanded table path) ∅ with
      | .ok keys => .ok (expansions.insert path keys)
      | .error rejection => .error rejection

/-- What the templates of all trees expanded to. -/
def readExpansions (artifacts : Std.ExtTreeMap String ArtifactSection)
    (table : Std.ExtTreeMap ActionKey ActionSection) (makers : Std.ExtTreeMap String ActionKey) :
    Except Rejection Expansions :=
  artifacts.toList.foldlM (addExpansion table makers) ∅

/-! ### Artifacts and their members -/

/-- The paths of the collections that own a member, trees and runfiles apart. -/
structure Membership where
  trees : Std.ExtTreeMap String String := ∅
  runfiles : Std.ExtTreeMap String String := ∅

/-- Note that the collection at `path` owns a member. -/
def addMember (path : String) (owners : Std.ExtTreeMap String String) (member : String) :
    Except Rejection (Std.ExtTreeMap String String) :=
  if member = path then .error (.selfOwned path)
  else
    match owners[member]? with
    | some first => .error (.ownedTwice member first path)
    | none => .ok (owners.insert member path)

def addArtifact (makers : Std.ExtTreeMap String ActionKey) (expansions : Expansions)
    (membership : Membership) (declared : String × ArtifactSection) :
    Except Rejection Membership :=
  let (path, artifact) := declared
  if artifact.kind ≠ .source ∧ path ∉ makers ∧ path ∉ expansions then .error (.unproduced path)
  else
    match artifact.kind with
    | .tree =>
      (artifact.members.foldlM (addMember path) membership.trees).map fun trees =>
        { membership with trees }
    | .runfiles =>
      (artifact.members.foldlM (addMember path) membership.runfiles).map fun runfiles =>
        { membership with runfiles }
    | .source | .derived =>
      if artifact.members.isEmpty then .ok membership else .error (.strayMembers path)

def checkArtifacts (artifacts : Std.ExtTreeMap String ArtifactSection)
    (makers : Std.ExtTreeMap String ActionKey) (expansions : Expansions) :
    Except Rejection Membership :=
  artifacts.toList.foldlM (addArtifact makers expansions) {}

/-! ### Cycles -/

/-- The actions that must run before one that reads `path`. -/
def makersOf (makers : Std.ExtTreeMap String ActionKey) (expansions : Expansions) (path : String) :
    List ActionKey :=
  makers[path]?.toList ++ (expansions[path]?.map Std.ExtTreeSet.toList).getD []

/-- Pairs of an action and one that reads what it makes, in the order in which the inputs are met. -/
def feeds (table : Std.ExtTreeMap ActionKey ActionSection)
    (makers : Std.ExtTreeMap String ActionKey) (expansions : Expansions) :
    List (ActionKey × ActionKey) :=
  (table.toList.flatMap fun (key, action) =>
    action.inputs.flatMap fun path => (makersOf makers expansions path).map fun p => (p, key)).eraseDups

/-- Which action must run before which, because it makes an input of it. Whatever makes an input is a
node, also if the table does not know it. -/
def precedence (table : Std.ExtTreeMap ActionKey ActionSection)
    (makers : Std.ExtTreeMap String ActionKey) (expansions : Expansions) : Precedence ActionKey where
  nodes := (table.keys ++ (feeds table makers expansions).map Prod.fst).eraseDups
  edges := feeds table makers expansions

def checkCycles (table : Std.ExtTreeMap ActionKey ActionSection)
    (makers : Std.ExtTreeMap String ActionKey) (expansions : Expansions) : Except Rejection Unit :=
  match (precedence table makers expansions).culprit? with
  | some key => .error (.cycle key)
  | none => .ok ()

end Config

/-- Check a description. -/
def Description.validate (d : Description) : Except Rejection Config := do
  if d.actions.isEmpty then throw .noActions
  if d.settings.maxRewinds = 0 then throw .noRewinds
  let actions ← Config.readActions d.actions.toList
  let makers ← Config.readMakers d.artifacts actions
  let expansions ← Config.readExpansions d.artifacts actions makers
  let _ ← Config.checkArtifacts d.artifacts makers expansions
  Config.checkCycles actions makers expansions
  return { settings := d.settings, artifacts := d.artifacts, actions, makers, expansions }

end Rewinding
