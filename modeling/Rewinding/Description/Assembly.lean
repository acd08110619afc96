import Rewinding.Description

/-!
# Assembling graph descriptions

Descriptions that are put together piece by piece. A later piece for the same action or path replaces
an earlier one.
-/

namespace Rewinding

namespace ActionSection

/-- An action of a kind, with nothing else to it. -/
def ofMnemonic (mnemonic : String) : ActionSection := { mnemonic }

def withInput (a : ActionSection) (path : String) : ActionSection :=
  { a with inputs := a.inputs ++ [path] }

def withOutput (a : ActionSection) (path : String) : ActionSection :=
  { a with outputs := a.outputs ++ [path] }

/-- The action, passing its inputs on. -/
def propagating (a : ActionSection) : ActionSection := { a with propagates := true }

def withRewindDep (a : ActionSection) (node : String) : ActionSection :=
  { a with rewindDeps := a.rewindDeps ++ [node] }

end ActionSection

namespace Description

def withAction (d : Description) (name : String) (a : ActionSection) : Description :=
  { d with actions := d.actions.insert name a }

def withArtifact (d : Description) (path : String) (a : ArtifactSection) : Description :=
  { d with artifacts := d.artifacts.insert path a }

def withSource (d : Description) (path : String) : Description :=
  d.withArtifact path { kind := .source }

/-- The description with a tree that owns some members. -/
def withTree (d : Description) (path : String) (members : List String) : Description :=
  d.withArtifact path { kind := .tree, members }

/-- The description with a tree that a template makes, of the actions it expanded to. -/
def withTemplateTree (d : Description) (path : String) (members expandedActions : List String) :
    Description :=
  d.withArtifact path { kind := .tree, members, expandedActions }

def withRunfiles (d : Description) (path : String) (members : List String) : Description :=
  d.withArtifact path { kind := .runfiles, members }

def withMaxRewinds (d : Description) (maxRewinds : UInt32) : Description :=
  { d with settings := { d.settings with maxRewinds } }

def withReportMode (d : Description) (reportMode : ReportMode) : Description :=
  { d with settings := { d.settings with reportMode } }

end Description

end Rewinding
