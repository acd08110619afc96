import Rewinding.Config.Rejection
import Rewinding.Loss

/-!
# Failures

Everything that can go wrong, by its cause. Most failures belong to the build and are reported to
its user; a *defect* shows that the graph engine itself is wrong.
-/

namespace Rewinding

/-- Why a loss could not be repaired by rewinding. -/
inductive ExecutionFault where
  /-- The action lost an input of the same digest before, in the same build. -/
  | repeatedLoss
  /-- A lost input belongs to a source, which no action can make again. -/
  | sourceLost
  /-- The action has been rewound as often as is allowed. -/
  | limitExceeded
  deriving DecidableEq, Repr

def ExecutionFault.text : ExecutionFault → String
  | .repeatedLoss => "lost the same input twice"
  | .sourceLost => "lost a source artifact"
  | .limitExceeded => "exceeded the rewind limit"

/-- An action that fails for good, with the loss that it reported. -/
structure ExecutionFailure where
  action : ActionKey
  mnemonic : String
  fault : ExecutionFault
  cause : Loss
  /-- Whether the failure should end the whole build at once. -/
  catastrophe : Bool := false

def ExecutionFailure.text (e : ExecutionFailure) : String :=
  "action " ++ e.action.text ++ " (" ++ e.mnemonic ++ ") " ++ e.fault.text ++ ": " ++ e.cause.text

/-- Why a file could not be read as text. -/
inductive FileFault where
  | missing
  /-- A name on the path is no directory. -/
  | notDirectory
  | isDirectory
  | nameTooLong
  | notText
  | other (message : String)
  deriving DecidableEq, Repr

def FileFault.message : FileFault → String
  | .missing => "No such file or directory (os error 2)"
  | .notDirectory => "Not a directory (os error 20)"
  | .isDirectory => "Is a directory (os error 21)"
  | .nameTooLong => "File name too long (os error 36)"
  | .notText => "stream did not contain valid UTF-8"
  | .other message => message

inductive Failure where
  | rejected (rejection : Rejection)
  | file (fault : FileFault)
  /-- The text of the description is not TOML, or not a description. -/
  | toml
  | actionNotFound (key : ActionKey)
  | unknownArtifact (path : String)
  | execution (failure : ExecutionFailure)
  /-- A lost input is no artifact and yet a direct dependency of the failed action. -/
  | virtualDependency (path : String) (key : ActionKey)
  | interrupted

namespace Failure

/-- Whether the failure shows a defect of the graph engine. -/
def isDefect : Failure → Bool
  | .virtualDependency .. => true
  | _ => false

def message : Failure → String
  | .rejected rejection => rejection.message
  | .file fault => "IO error: " ++ fault.message
  | .toml => "TOML parsing error"
  | .actionNotFound key => "Action not found: " ++ key.text
  | .unknownArtifact path => "Unknown artifact: " ++ path
  | .execution failure => failure.text
  | .virtualDependency path key =>
    "Invariant violation: unexpected non-artifact lost input which is a dep of the current action. " ++
      "lost_input: " ++ path ++ ", failed_action: " ++ key.text
  | .interrupted => "rewind computation interrupted"

end Failure

/-- How a computation ends without a result. -/
inductive Stop where
  | failure (failure : Failure)
  /-- The report of a defect ended it, with this text. -/
  | crash (message : String)

end Rewinding
