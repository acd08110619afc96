import Rewinding.Build
import Rewinding.Planning

/-!
# Rehearsals

A rehearsal runs computations against answers that were written down before, without a graph. It
keeps a log of the queries it was asked, and may cancel the build after a given number of them.
-/

namespace Rewinding

/-- The answers of a rehearsal. -/
structure Rehearsal where
  actions : List Action
  /-- What artifacts depend on, by their paths; `none` where some of it is not done. -/
  dependencies : Std.ExtTreeMap String (Option Producers)
  /-- The query during which the build is cancelled, counted from one; zero for before the first. -/
  cancelAfter : Option Nat := none

namespace Rehearsal

structure State where
  build : Build := {}
  log : List String := []

def discover (r : Rehearsal) (a : Artifact) : Except Failure (Option Producers) :=
  match r.dependencies[a.path]? with
  | some answer => .ok answer
  | none => .error (.unknownArtifact a.path)

/-- The last action with a key. -/
def lookup (r : Rehearsal) (key : ActionKey) : Except Failure { a : Action // a ∈ r.actions } :=
  match h : r.actions.reverse.find? fun a => a.key = key with
  | some a => .ok ⟨a, List.mem_reverse.1 (List.mem_of_find?_eq_some h)⟩
  | none => .error (.actionNotFound key)

/-- How the log writes a step, if the step is a query. -/
def query? {known : List Action} : Step known → Option String
  | .discover artifact => some ("discover " ++ artifact.path)
  | .lookup key => some ("lookup " ++ key.text)
  | _ => none

/-- Write down a query, and cancel the build if it is time to. -/
def State.ask (state : State) (cancelAfter : Option Nat) (query : String) : State :=
  let log := state.log ++ [query]
  { log, build := if cancelAfter = some log.length then state.build.cancel else state.build }

/-- Answers steps as was written down. -/
def world (r : Rehearsal) : World r.actions State where
  answer step state :=
    let (answer, build) := state.build.answer .collect r.discover r.lookup step
    match query? step with
    | none => (answer, { state with build })
    | some query => (answer, { state with build }.ask r.cancelAfter query)

/-- The state before the first query. -/
def start (r : Rehearsal) : State :=
  { build := if r.cancelAfter = some 0 then Build.cancel {} else {} }

def run (r : Rehearsal) (p : Procedure r.actions α) (state : State) : α × State :=
  p.run r.world state

end Rehearsal

end Rewinding
