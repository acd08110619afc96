import Rewinding.Proofs.Reports
import Rewinding.Proofs.Runs

/-!
# What a new build remembers

A build that begins keeps the nodes and the executions of the one before it and forgets the rest: the
losses, the attempts, a cancellation. So whatever is done with two sessions that differ in these alone,
from the beginning of a build on they cannot be told apart (`indistinguishable_begin`).

A reporter may keep what it gets for longer than a build. No answer depends on what it has kept before:
`following` puts earlier reports in front of those of a build, and commutes with everything that
happens to it.
-/

namespace Rewinding

namespace Build

/-- The build with earlier reports in front of its own. -/
def following (b : Build) (earlier : List String) : Build := { b with reports := earlier ++ b.reports }

/-- The nodes and the executions of a build, and nothing else of it. -/
def bare (b : Build) : Build := { evaluation := b.evaluation, cache := b.cache }

/-- All that a new build has of the one before is in its bare state, and its reports are still kept. -/
theorem begin_eq (b : Build) : b.begin = b.bare.following b.reports := by
  unfold begin bare following
  rw [List.append_nil]

theorem take_following (b : Build) (earlier : List String) (reporter : Reporter) (message : String) :
    (b.following earlier).take reporter message = (b.take reporter message).following earlier := by
  unfold take
  split
  · unfold following
    rw [List.append_assoc]
  · rfl

variable {g : Graph} {reporter : Reporter}

/-- No answer depends on earlier reports. -/
theorem answer_following (step : Step g.roster) (b : Build) (earlier : List String) :
    (world g reporter).answer step (b.following earlier) =
      (((world g reporter).answer step b).1,
        ((world g reporter).answer step b).2.following earlier) := by
  cases step with
  | report message => exact Prod.ext rfl (b.take_following earlier reporter message)
  | _ => rfl

theorem run_following {α : Type} (p : Procedure g.roster α) (b : Build) (earlier : List String) :
    p.run (world g reporter) (b.following earlier) =
      ((p.run (world g reporter) b).1, (p.run (world g reporter) b).2.following earlier) := by
  induction p generalizing b with
  | done value => rfl
  | ask step next ih => rw [Procedure.run_ask, Procedure.run_ask, answer_following, ih]

theorem reports_following {α : Type} (p : Procedure g.roster α) (b : Build) (earlier : List String) :
    p.reports (world g reporter) (b.following earlier) = p.reports (world g reporter) b := by
  induction p generalizing b with
  | done value => rfl
  | ask step next ih => rw [Procedure.reports, Procedure.reports, answer_following, ih]

end Build

namespace Session

/-! ### What can be done with a session -/

/-- What clients of a session and of its graph do. -/
inductive Operation where
  | move (move : Move)
  /-- Some nodes are made not done. -/
  | restart (directive : Restart)

/-- What is learned from an operation. -/
inductive Reply where
  | nothing
  /-- The value that a node has got. -/
  | value (digest : String)
  /-- How many nodes were done and are not any more. -/
  | count (nodes : Nat)
  /-- What a handling ended with, and what it reported. -/
  | handled (result : Except Stop Outcome) (reports : List String)

def perform (s : Session) : Operation → Session
  | .move move => s.make move
  | .restart directive => s.update fun b => b.restart directive

def reply (s : Session) : Operation → Reply
  | .move .begin | .move .cancel => .nothing
  | .move (.complete node) => .value (s.build.evaluation.nextValue node)
  | .move (.handle key loss) => .handled (s.handle key loss).1 (s.reported key loss)
  | .restart directive => .count (s.build.evaluation.restart directive).1

def performAll (s : Session) (operations : List Operation) : Session := operations.foldl perform s

theorem performAll_cons (s : Session) (operation : Operation) (operations : List Operation) :
    s.performAll (operation :: operations) = (s.perform operation).performAll operations := rfl

/-- The replies to some operations, one after another. -/
def replies (s : Session) : List Operation → List Reply
  | [] => []
  | operation :: operations => s.reply operation :: (s.perform operation).replies operations

/-! ### Earlier reports -/

/-- The session with earlier reports in front of those of its build. -/
def following (s : Session) (earlier : List String) : Session :=
  s.update fun b => b.following earlier

theorem handle_following (s : Session) (earlier : List String) (key : ActionKey) (loss : Loss) :
    (s.following earlier).handle key loss =
      ((s.handle key loss).1, (s.handle key loss).2.following earlier) := by
  have hrun : (s.handling key loss).run.run (Build.world s.graph s.reporter)
      (s.build.following earlier) = _ := Build.run_following _ s.build earlier
  exact congrArg (fun r : Except Stop Outcome × Build => (r.1, { s with build := r.2 })) hrun

theorem perform_following (s : Session) (earlier : List String) (operation : Operation) :
    (s.following earlier).perform operation = (s.perform operation).following earlier := by
  cases operation with
  | restart directive => rfl
  | move move =>
    cases move with
    | begin | cancel | complete node => rfl
    | handle key loss => exact congrArg Prod.snd (s.handle_following earlier key loss)

theorem reply_following (s : Session) (earlier : List String) (operation : Operation) :
    (s.following earlier).reply operation = s.reply operation := by
  cases operation with
  | restart directive => rfl
  | move move =>
    cases move with
    | begin | cancel | complete node => rfl
    | handle key loss =>
      have hreported : (s.following earlier).reported key loss = s.reported key loss :=
        Build.reports_following _ s.build earlier
      show Reply.handled ((s.following earlier).handle key loss).1 _ = .handled _ _
      rw [handle_following, hreported]

theorem performAll_following (s : Session) (earlier : List String) (operations : List Operation) :
    (s.following earlier).performAll operations = (s.performAll operations).following earlier := by
  induction operations generalizing s with
  | nil => rfl
  | cons operation operations ih => rw [performAll_cons, perform_following, ih, performAll_cons]

theorem replies_following (s : Session) (earlier : List String) (operations : List Operation) :
    (s.following earlier).replies operations = s.replies operations := by
  induction operations generalizing s with
  | nil => rfl
  | cons operation operations ih => rw [replies, reply_following, perform_following, ih, replies]

/-! ### The beginning of a build -/

/-- A session of which nothing is known but its nodes and its executions. -/
def bare (s : Session) : Session := s.update Build.bare

theorem make_begin (s : Session) : s.make .begin = s.bare.following s.build.reports :=
  congrArg (fun b => { s with build := b }) s.build.begin_eq

/-- **A new build forgets the old one.** Let two sessions differ in nothing but the losses and the
attempts that they remember, in whether they are cancelled, and in what they have reported. When a
build begins in both, whatever is done with them afterwards gets the same replies from both, and leaves
them in the same state `u`, but for what they had reported before. -/
theorem indistinguishable_begin (s : Session) (history : History)
    (attempts : Std.ExtTreeMap ActionKey UInt32) (interrupted : Bool) (reports : List String)
    (operations : List Operation) :
    let t := s.update fun b => { b with history, attempts, interrupted, reports }
    (t.make .begin).replies operations = (s.make .begin).replies operations ∧
    ∃ u : Session, (s.make .begin).performAll operations = u.following s.build.reports ∧
      (t.make .begin).performAll operations = u.following reports := by
  intro t
  have hbare : t.bare = s.bare := rfl
  refine ⟨?_, s.bare.performAll operations, ?_, ?_⟩
  · rw [make_begin, make_begin, replies_following, replies_following, hbare]
  · rw [make_begin, performAll_following]
  · rw [make_begin, performAll_following, hbare]
    rfl

/-- The attempt of the build before is not counted. -/
example : ((halfway.make .begin).handle ⟨"//f", 0⟩ halfwayLoss).1.toOption.map Outcome.attempt =
    some 1 := by decide +kernel

end Session

end Rewinding
