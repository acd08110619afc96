import Rewinding.ActionKey

/-!
# Why a graph description is rejected
-/

namespace Rewinding

/-- The first fault found in a graph description. -/
inductive Rejection where
  | noActions
  | noRewinds
  | malformedKey (malformed : ActionKey.Malformed)
  | sourceOutput (key : ActionKey) (path : String)
  | inputAndOutput (key : ActionKey) (path : String)
  | producedTwice (path : String) (first second : ActionKey)
  | expandedNotTree (path : String)
  | expandedAndProduced (path : String) (producer : ActionKey)
  | unknownExpanded (path : String) (key : ActionKey)
  | unproduced (path : String)
  | strayMembers (path : String)
  | selfOwned (path : String)
  | ownedTwice (member first second : String)
  | cycle (key : ActionKey)
  deriving DecidableEq, Repr

namespace Rejection

/-- Whether the actions depend on each other in a cycle. -/
def isCycle : Rejection → Bool
  | .cycle _ => true
  | _ => false

def text : Rejection → String
  | .noActions => "graph must contain at least one [action.\"<owner>#<index>\"] section"
  | .noRewinds => "[config].max_rewinds_per_action must be >= 1 (got 0)"
  | .malformedKey malformed => malformed.message
  | .sourceOutput key path =>
    "action '" ++ key.text ++ "' outputs '" ++ path ++ "', which is declared as a source artifact"
  | .inputAndOutput key path =>
    "action '" ++ key.text ++ "' lists '" ++ path ++ "' as both input and output"
  | .producedTwice path first second =>
    "artifact '" ++ path ++ "' is produced by both '" ++ first.text ++ "' and '" ++ second.text ++ "'"
  | .expandedNotTree path =>
    "artifact '" ++ path ++ "' lists `expanded_actions` but is not a tree artifact"
  | .expandedAndProduced path producer =>
    "tree artifact '" ++ path ++ "' is both an output of '" ++ producer.text ++
      "' and a template expansion"
  | .unknownExpanded path key =>
    "tree artifact '" ++ path ++ "' has unknown expanded action '" ++ key.text ++ "'"
  | .unproduced path => "derived artifact '" ++ path ++ "' has no producing action"
  | .strayMembers path =>
    "artifact '" ++ path ++ "' lists `members` but is not a tree or runfiles artifact"
  | .selfOwned path => "artifact '" ++ path ++ "' cannot own itself"
  | .ownedTwice member first second =>
    "member '" ++ member ++ "' is owned by both '" ++ first ++ "' and '" ++ second ++ "'"
  | .cycle key => "cycle detected in action graph involving action '" ++ key.text ++ "'"

/-- The wording of a fault behind the name of its class. -/
def message (r : Rejection) : String :=
  (if r.isCycle then "Cycle detected in action graph: " else "Configuration error: ") ++ r.text

end Rejection

end Rewinding
