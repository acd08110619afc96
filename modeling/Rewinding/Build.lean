import Rewinding.Evaluation
import Rewinding.Procedure

/-!
# The state of a build

What computations share while a build runs: which nodes are done, what was remembered of earlier
executions and losses, and whether the build was cancelled. `Build.world` answers the steps of
computations from it.
-/

namespace Rewinding

/-- That an action lost an input with a digest. -/
@[ext]
structure LossRecord where
  key : ActionKey
  digest : String
  deriving DecidableEq, Repr, Inhabited

instance : Ord LossRecord where
  compare := compareLex (compareOn LossRecord.key) (compareOn LossRecord.digest)

instance : Std.TransOrd LossRecord :=
  inferInstanceAs (Std.TransCmp (compareLex (compareOn LossRecord.key) (compareOn LossRecord.digest)))

instance : Std.LawfulEqOrd LossRecord where
  eq_of_compare {a b} h := by
    obtain ⟨hk, hd⟩ := Ordering.then_eq_eq.1 (show (compareOn LossRecord.key a b).then
      (compareOn LossRecord.digest a b) = .eq from h)
    exact LossRecord.ext (Std.LawfulEqOrd.eq_of_compare hk) (Std.LawfulEqOrd.eq_of_compare hd)

abbrev History := Std.ExtTreeSet LossRecord

/-- Where reports of defects go, and which of them end the computation that sends them. -/
structure Reporter where
  /-- The text with which a report ends the computation, if it does. -/
  crash? : String → Option String := fun _ => none
  /-- Whether reports are kept in the state of the build. -/
  collects : Bool := false

namespace Reporter

/-- To the log, and the computation goes on. -/
def log : Reporter := {}

/-- Nowhere: the report ends the computation. -/
def panic : Reporter := { crash? := fun message => some ("bug report: " ++ message) }

/-- Into the state of the build, and the computation goes on. -/
def collect : Reporter := { collects := true }

def ofMode : ReportMode → Reporter
  | .log => log
  | .panic => panic

end Reporter

structure Build where
  evaluation : Evaluation := {}
  /-- The digests of what each action made when it last ran. -/
  cache : Std.ExtTreeMap ActionKey (List String) := ∅
  history : History := ∅
  /-- How often each action was tried to be rewound. The count starts again after `2 ^ 32 - 1`. -/
  attempts : Std.ExtTreeMap ActionKey UInt32 := ∅
  interrupted : Bool := false
  reports : List String := []

namespace Build

/-! ### The history -/

def record (b : Build) (loss : LossRecord) : Build := { b with history := b.history.insert loss }

def resetHistory (b : Build) : Build := { b with history := ∅ }

/-! ### Attempts -/

def attemptsOf (b : Build) (key : ActionKey) : UInt32 := b.attempts[key]?.getD 0

def countAttempt (b : Build) (key : ActionKey) : Build :=
  { b with attempts := b.attempts.insert key (b.attemptsOf key + 1) }

/-! ### Cancellation -/

def cancel (b : Build) : Build := { b with interrupted := true }

def clearInterrupt (b : Build) : Build := { b with interrupted := false }

/-- Start a new build: forget losses and attempts of the one before, and its cancellation. -/
def begin (b : Build) : Build := { b with history := ∅, attempts := ∅, interrupted := false }

/-! ### The cache -/

def cacheResult (b : Build) (key : ActionKey) (digests : List String) : Build :=
  { b with cache := b.cache.insert key digests }

def evict (b : Build) (key : ActionKey) : Build := { b with cache := b.cache.erase key }

/-! ### Nodes -/

def complete (b : Build) (node : Node) : Build :=
  { b with evaluation := b.evaluation.complete node }

def invalidate (b : Build) (node : Node) : Build :=
  { b with evaluation := b.evaluation.invalidate node }

/-! ### Answering steps -/

def take (b : Build) (reporter : Reporter) (message : String) : Build :=
  if reporter.collects then { b with reports := b.reports ++ [message] } else b

/-- Answer a step, given the answers to queries of the graph. -/
def answer {known : List Action} (b : Build) (reporter : Reporter)
    (discover : Artifact → Except Failure (Option Producers))
    (lookup : ActionKey → Except Failure { a : Action // a ∈ known }) :
    (step : Step known) → step.Answer × Build
  | .interrupted => (b.interrupted, b)
  | .discover artifact => (discover artifact, b)
  | .lookup key => (lookup key, b)
  | .record key digest => (⟨key, digest⟩ ∉ b.history, b.record ⟨key, digest⟩)
  | .report message => (reporter.crash? message, b.take reporter message)
  | .attempt key => (b.attemptsOf key + 1, b.countAttempt key)
  | .invalidate node => (b.evaluation.isDone node, b.invalidate node)
  | .evict key => (key ∈ b.cache, b.evict key)

/-- No step cancels the build. -/
theorem interrupted_answer {known : List Action} (b : Build) (reporter : Reporter)
    (discover : Artifact → Except Failure (Option Producers))
    (lookup : ActionKey → Except Failure { a : Action // a ∈ known }) (step : Step known) :
    (b.answer reporter discover lookup step).2.interrupted = b.interrupted := by
  cases step with
  | report message =>
    show (b.take reporter message).interrupted = _
    unfold take
    split <;> rfl
  | _ => rfl

/-- Answers the steps of computations on a graph. -/
def world (g : Graph) (reporter : Reporter) : World g.roster Build where
  answer step b := b.answer reporter (b.evaluation.discover g) g.lookup step

end Build

end Rewinding
