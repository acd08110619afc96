import Rewinding.Config.Load
import Rewinding.Listing
import Rewinding.Service

/-!
# Diagnostic runs

A diagnosis answers what a build would restart if an action lost some inputs. It takes every node of
the described graph as done once and every action as executed, reports the loss to a service, and
lists what came of it. A dry run lists the graph only.
-/

namespace Rewinding

/-- What is asked of a diagnosis. -/
structure Question where
  /-- The key of the action that lost inputs, as written. -/
  action : Option String := none
  lost : List String := []
  dryRun : Bool := false

namespace Diagnosis

/-- Why a diagnosis has no answer. -/
inductive Fault where
  | failure (failure : Failure)
  | noAction
  | malformedKey (malformed : ActionKey.Malformed)
  /-- A lost artifact has no value. -/
  | noValue (path : String)
  | noReport (reason : NoReport)

def Fault.message : Fault → String
  | .failure reason => reason.message
  | .noAction => "--action is required unless --dry-run is given"
  | .malformedKey malformed => malformed.message
  | .noValue path => "artifact " ++ path ++ " has no value"
  | .noReport reason => reason.message

def actionOf (q : Question) : Except Fault ActionKey :=
  match q.action with
  | none => .error .noAction
  | some text => (ActionKey.parse text).mapError .malformedKey

/-- A session in which everything has been evaluated and executed once. -/
def sessionOf (c : Config) : Session :=
  let s : Session :=
    { graph := Graph.ofConfig c
      reporter := Reporter.ofMode c.settings.reportMode
      maxRewinds := c.settings.maxRewinds }
  s.completeAll.seedCache

/-- Rewind the loss of some paths and report what came of it. -/
def rewind (c : Config) (action : ActionKey) (lost : List String) : Except Fault Report := do
  let s := sessionOf c
  let loss ← (s.lossOf (action.text ++ " could not read its inputs") lost).mapError .noValue
  (s.rewindOnce action loss false).1.mapError .noReport

/-- Answer a question about the description in a file. -/
def answer (file : Except FileFault String) (q : Question) : Except Fault String := do
  let c ← (Config.load file).mapError .failure
  if q.dryRun then return c.listing
  let action ← actionOf q
  let report ← rewind c action q.lost
  let outcome ← report.result.mapError .failure
  return outcome.listing report.action

end Diagnosis

end Rewinding
