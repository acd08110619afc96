import Rewinding.Procedure

/-!
# Computations side by side

The members of a crew share one state and take turns in it, one step at a time. A schedule says
whose turn it is; every way in which several computations can interleave is a schedule.

Members may end in any order. `arrange` puts what they end with back into the order in which they
were started.
-/

namespace Rewinding

/-- What a procedure that has ended ended with. -/
def Procedure.result? {known : List Action} {α : Type} : Procedure known α → Option α
  | .done value => some value
  | .ask _ _ => none

/-- Computations on a shared state. -/
structure Crew (known : List Action) (α σ : Type) where
  members : List (Procedure known α)
  state : σ

namespace Crew

variable {known : List Action} {α σ : Type}

/-- Let the member at place `i` take one step, if there is one that has not ended. -/
def turn (world : World known σ) (c : Crew known α σ) (i : Nat) : Crew known α σ :=
  match c.members[i]? with
  | none => c
  | some member =>
    let (member, state) := member.advance world c.state
    { members := c.members.set i member, state }

def work (world : World known σ) (c : Crew known α σ) (schedule : List Nat) : Crew known α σ :=
  schedule.foldl (turn world) c

def results? (c : Crew known α σ) : Option (List α) := c.members.mapM Procedure.result?

@[simp]
theorem work_nil (world : World known σ) (c : Crew known α σ) : c.work world [] = c := rfl

theorem work_cons (world : World known σ) (c : Crew known α σ) (i : Nat) (is : List Nat) :
    c.work world (i :: is) = (c.turn world i).work world is := rfl

theorem work_append (world : World known σ) (c : Crew known α σ) (is js : List Nat) :
    c.work world (is ++ js) = (c.work world is).work world js := List.foldl_append

/-- Nobody joins or leaves. -/
@[simp]
theorem length_members_turn (world : World known σ) (c : Crew known α σ) (i : Nat) :
    (c.turn world i).members.length = c.members.length := by
  unfold turn
  split
  · rfl
  · simp

end Crew

/-! ### Results in order -/

/-- Put values that arrive with their places into the places, of which there are `count`. -/
def arrange {β : Type} (count : Nat) (arrivals : List (Nat × β)) : List β :=
  (arrivals.foldl (fun places (i, value) => places.set i (some value))
    (List.replicate count none)).filterMap id

/-- The texts of crashes apart from what computations report. -/
def Stop.split {α : Type} : Except Stop α → Except String (Except Failure α)
  | .ok value => .ok (.ok value)
  | .error (.failure reason) => .ok (.error reason)
  | .error (.crash message) => .error message

/-- Gather what the computations of a crew end with, in the order in which they end; the first crash
among them is all that is learned. -/
def gather {α : Type} (count : Nat) (arrivals : List (Nat × Except Stop α)) :
    Except String (List (Except Failure α)) := do
  let values ← arrivals.mapM fun (i, result) => do return (i, ← Stop.split result)
  return arrange count values

end Rewinding
