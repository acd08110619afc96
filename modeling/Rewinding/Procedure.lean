import Rewinding.Action
import Rewinding.Failure

/-!
# Procedures

Rewinds of several failed actions may be computed at once, on one shared build. A `Step` is one
indivisible thing that such a computation does to the build or asks of it; a `Procedure` is a
computation made of steps, in which each answer decides what comes next.

A procedure alone runs by `Procedure.run`, against any `World` that answers its steps. Several
procedures run side by side by taking turns with `Procedure.advance`.

The actions that a lookup can find are the members of a list `known`, which is a parameter of
everything here. That list is what makes walks over the graph finite.
-/

namespace Rewinding

/-- One indivisible step of a computation. -/
inductive Step (known : List Action) where
  | interrupted
  /-- Ask what an artifact depends on: nothing is known as long as some of it is not done. -/
  | discover (artifact : Artifact)
  | lookup (key : ActionKey)
  /-- Remember that an action lost an input with a digest, unless that is remembered already. -/
  | record (key : ActionKey) (digest : String)
  | report (message : String)
  | attempt (key : ActionKey)
  | invalidate (node : Node)
  /-- Forget the last execution of an action. -/
  | evict (key : ActionKey)

/-- What a step is answered with. -/
@[reducible]
def Step.Answer {known : List Action} : Step known → Type
  | .interrupted => Bool
  | .discover _ => Except Failure (Option Producers)
  | .lookup _ => Except Failure { a : Action // a ∈ known }
  /- Whether the pair is new. -/
  | .record _ _ => Bool
  /- The text with which the computation ends, if the report ends it. -/
  | .report _ => Option String
  /- The number of the attempt. -/
  | .attempt _ => UInt32
  /- Whether the node was done. -/
  | .invalidate _ => Bool
  /- Whether there was something to forget. -/
  | .evict _ => Bool

/-- A computation that ends with a value of type `α`. -/
inductive Procedure (known : List Action) (α : Type) where
  | done (value : α)
  | ask (step : Step known) (next : step.Answer → Procedure known α)

/-- Answers the steps of procedures, from a state of type `σ` that it may change. -/
structure World (known : List Action) (σ : Type) where
  answer : (step : Step known) → σ → step.Answer × σ

namespace Procedure

variable {known : List Action} {α β σ : Type}

/-- Go on with `f` where `p` ends. -/
def bind (p : Procedure known α) (f : α → Procedure known β) : Procedure known β :=
  match p with
  | .done value => f value
  | .ask step next => .ask step fun answer => (next answer).bind f

instance : Monad (Procedure known) where
  pure := .done
  bind := bind

def step (s : Step known) : Procedure known s.Answer := .ask s .done

/-- Run a procedure to its end. -/
def run (world : World known σ) : Procedure known α → σ → α × σ
  | .done value, state => (value, state)
  | .ask step next, state =>
    let (answer, state) := world.answer step state
    (next answer).run world state

/-- Run the next step of a procedure that has not ended. -/
def advance (world : World known σ) : Procedure known α → σ → Procedure known α × σ
  | .done value, state => (.done value, state)
  | .ask step next, state =>
    let (answer, state) := world.answer step state
    (next answer, state)

/-! ### Running -/

@[simp]
theorem run_done (world : World known σ) (value : α) (state : σ) :
    (done value : Procedure known α).run world state = (value, state) := rfl

@[simp]
theorem run_pure (world : World known σ) (value : α) (state : σ) :
    (pure value : Procedure known α).run world state = (value, state) := rfl

theorem run_ask (world : World known σ) (step : Step known) (next : step.Answer → Procedure known α)
    (state : σ) :
    (ask step next).run world state =
      (next (world.answer step state).1).run world (world.answer step state).2 := rfl

/-- A computation that goes on where another ends runs from the state in which that one ends. -/
theorem run_bind (world : World known σ) (p : Procedure known α) (f : α → Procedure known β)
    (state : σ) :
    (p >>= f).run world state = (f (p.run world state).1).run world (p.run world state).2 := by
  show (p.bind f).run world state = _
  induction p generalizing state with
  | done value => rfl
  | ask step next ih => exact ih _ _

/-- Taking one step first does not change how a procedure ends. -/
theorem run_advance (world : World known σ) (p : Procedure known α) (state : σ) :
    (p.advance world state).1.run world (p.advance world state).2 = p.run world state := by
  cases p <;> rfl

end Procedure

/-- A computation that may end without a result. -/
abbrev Attempt (known : List Action) (α : Type) := ExceptT Stop (Procedure known) α

namespace Attempt

variable {known : List Action}

def fail (failure : Failure) : Attempt known α := throw (.failure failure)

/-- Use an answer that may be a failure. -/
def ofAnswer (answer : Except Failure α) : Attempt known α :=
  match answer with
  | .ok value => pure value
  | .error failure => fail failure

/-- One step whose answer is a value. -/
def step (s : Step known) : Attempt known s.Answer := ExceptT.lift (Procedure.step s)

def checkInterrupt : Attempt known Unit := do
  let cancelled ← step .interrupted
  if cancelled then fail .interrupted

def discover (artifact : Artifact) : Attempt known (Option Producers) := do
  ofAnswer (← step (.discover artifact))

def lookup (key : ActionKey) : Attempt known { a : Action // a ∈ known } := do
  ofAnswer (← step (.lookup key))

/-- Report a defect, which may end the computation. -/
def report (message : String) : Attempt known Unit := do
  match ← step (.report message) with
  | none => pure ()
  | some text => throw (.crash text)

end Attempt

end Rewinding
