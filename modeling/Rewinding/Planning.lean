import Rewinding.Ownership
import Rewinding.Walk

/-!
# Computing and applying a rewind

An action failed because inputs were lost. `planFor` finds what must run again to make them, and
`handle` applies that plan to the build: it makes the nodes of the plan not done and forgets the
last execution of its actions. Nothing is changed before the plan is complete.
-/

namespace Rewinding

/-- What became of a failed action whose inputs are made again. -/
structure Outcome where
  plan : Plan
  /-- How many nodes this rewind made not done; a rewind that runs at the same time may have made
  others so. -/
  invalidated : Nat
  /-- How many executions were forgotten, that of the failed action included. -/
  evicted : Nat
  /-- The number of the attempt to rewind the failed action in this build. -/
  attempt : UInt32

namespace Planning

variable {known : List Action}

/-- The failure of `key` for a loss that rewinding cannot repair. -/
def failureOf (failed : Action) (key : ActionKey) (fault : ExecutionFault) (loss : Loss) : Failure :=
  .execution { action := key, mnemonic := failed.mnemonic, fault, cause := loss }

def repeatReport (key : ActionKey) (digest : String) (input : Input) : String :=
  "lost input twice for the same action. lost_input: " ++ input.path ++ ", lost_input digest: " ++
    digest ++ ", failed_action: " ++ key.text

/-- Remember that `key` lost some inputs. One that is remembered already was lost again before it
could be made again, which a rewind should have prevented: that is a defect, and the action fails. -/
def recordAll (failed : Action) (key : ActionKey) (loss : Loss) :
    List (String × Input) → Attempt known Unit
  | [] => pure ()
  | (digest, input) :: lost => do
    if ← Attempt.step (.record key digest) then recordAll failed key loss lost
    else
      Attempt.report (repeatReport key digest input)
      Attempt.fail (failureOf failed key .repeatedLoss loss)

def checkNotRepeated (failed : Action) (key : ActionKey) (loss : Loss) : Attempt known Unit :=
  recordAll failed key loss loss.lost.toList

/-- Attribute the lost inputs, and report a defect that this shows. -/
def responsible (failed : Action) (directDeps : Std.ExtTreeSet Node) (loss : Loss)
    (runfiles : OwnerLookup) : Attempt known Responsible :=
  match Ownership.resolve ⟨loss.owners, runfiles, directDeps⟩ failed.key loss.inputs with
  | .ok responsible => pure responsible
  | .error failure => do
    if failure.isDefect then Attempt.report failure.message
    Attempt.fail failure

/-- Find what must run again so that the lost inputs of a failed action are made again: every node
between the action's own and those of the actions that make them. -/
def planFor (failed : Action) (key : ActionKey) (directDeps : Std.ExtTreeSet Node) (loss : Loss)
    (runfiles : OwnerLookup) : Attempt known Plan := do
  checkNotRepeated failed key loss
  let owners := (← responsible failed directDeps loss runfiles).toList.map Prod.fst
  if owners.any Artifact.isSource then Attempt.fail (failureOf failed key .sourceLost loss)
  let builder ← (Walk.rewindAll (Builder.start key) owners).adapt Prod.fst
  return builder.plan

/-- Make some nodes not done, and count those that were done. -/
def invalidateAll : List Node → Attempt known Nat
  | [] => pure 0
  | node :: nodes => do
    let wasDone ← Attempt.step (.invalidate node)
    let count ← invalidateAll nodes
    return count + wasDone.toNat

/-- Forget the last execution of some actions, and count those that had one. -/
def evictAll : List ActionKey → Attempt known Nat
  | [] => pure 0
  | key :: keys => do
    let wasCached ← Attempt.step (.evict key)
    let count ← evictAll keys
    return count + wasCached.toNat

/-- Handle the loss of inputs of one action from end to end. -/
def handle (maxRewinds : UInt32) (runfiles : Owners) (key : ActionKey) (loss : Loss) :
    Attempt known Outcome := do
  Attempt.checkInterrupt
  let failed ← Attempt.lookup key
  let attempt ← Attempt.step (.attempt key)
  if attempt > maxRewinds then Attempt.fail (failureOf failed key .limitExceeded loss)
  let plan ← planFor failed.1 key failed.1.directDeps loss runfiles
  let invalidated ← invalidateAll plan.restart.nodes
  let evicted ← evictAll (key :: plan.additionalKeys)
  return { plan, invalidated, evicted, attempt }

end Planning

end Rewinding
