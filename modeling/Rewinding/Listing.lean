import Rewinding.Config
import Rewinding.Planning
import Rewinding.Text.Quoted

/-!
# Listings

What is printed for people: the graph that a description describes, and the outcome of a rewind.
-/

namespace Rewinding

def Text.ofLines (lines : List String) : String := String.join (lines.map (· ++ "\n"))

/-- A line for a list of paths or nodes, unless the list is empty. -/
def ActionSection.listLine (title : String) (texts : List String) : List String :=
  if texts.isEmpty then [] else ["      " ++ title ++ ": " ++ Text.quotedList texts]

/-- The lines for one action of a description. -/
def ActionSection.lines (key : ActionKey) (a : ActionSection) : List String :=
  ["  - " ++ key.text ++ " (" ++ a.mnemonic ++ ")"] ++
    listLine "inputs" a.inputs ++ listLine "outputs" a.outputs ++
    (if a.propagates then ["      propagates_inputs: true"] else []) ++
    listLine "rewind_deps" a.rewindDeps

/-- The settings, actions and artifacts of a checked description. -/
def Config.listing (c : Config) : String :=
  Text.ofLines <|
    ["rewind dry-run",
     "  config.bug_report = " ++ c.settings.reportMode.title,
     "  config.max_rewinds_per_action = " ++ Text.numeral c.settings.maxRewinds.toNat,
     "",
     "actions (" ++ Text.numeral c.actions.size ++ "):"] ++
    (c.actions.toList.flatMap fun (key, a) => a.lines key) ++
    ["", "artifacts:"] ++
    c.paths.map fun path => "  - " ++ path ++ " (" ++ (c.artifactFor path).kind.title ++ ")"

/-- What the rewind of an action did. -/
def Outcome.listing (o : Outcome) (action : ActionKey) : String :=
  let restart := o.plan.restart
  let additional := o.plan.additional
  Text.ofLines <|
    ["rewind plan for " ++ action.text ++ " (attempt " ++ Text.numeral o.attempt.toNat ++ ")",
     "  nodes to restart (" ++ Text.numeral restart.size ++ "):"] ++
    restart.nodes.map (fun node => "    - " ++ node.text) ++
    ["  additional actions to restart (" ++ Text.numeral additional.length ++ "):"] ++
    additional.map (fun a => "    - " ++ a.key.text ++ " (" ++ a.mnemonic ++ ")") ++
    ["  newly invalidated: " ++ Text.numeral o.invalidated,
     "  evicted action states: " ++ Text.numeral o.evicted]

end Rewinding
