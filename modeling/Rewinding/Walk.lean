import Rewinding.Plan
import Rewinding.Procedure

/-!
# Walking from a lost artifact to what must run again

Restarting an artifact means restarting the actions that make it. An action that passes its inputs
on may not make the lost file itself, so its inputs are restarted as well, and so on: the walk goes
breadth first through a queue of actions.

* `rewind` walks from one artifact, `rewindAll` from several, one after another, into one plan.

Each action enters the queue when it is noted, and is noted once. So the number of known actions that
can still be noted, together with the length of the queue, falls with each turn: `Spread.bound` is
what a turn gives back of it. Where the walk stops early, what was marked and noted until then is
returned with the reason.
-/

namespace Rewinding

/-- A computation that extends a plan and may end early, with the plan as far as it got. -/
abbrev Walk (known : List Action) (α : Type) := ExceptT (Stop × Builder) (Procedure known) α

/-- The outcome of extending the plan `b`. -/
structure Spread (known : List Action) (b : Builder) where
  builder : Builder
  /-- The actions that were noted, in order. -/
  fresh : List { a : Action // a ∈ known }
  bound : builder.unmarked known + fresh.length ≤ b.unmarked known

namespace Walk

variable {known : List Action}

/-- Do something during which the plan does not change. -/
def within (b : Builder) (attempt : Attempt known α) : Walk known α :=
  ExceptT.mk do
    match ← attempt.run with
    | .ok value => pure (.ok value)
    | .error stop => pure (.error (stop, b))

/-- The actions with the given keys, each looked up after a check for cancellation. -/
def lookupAll : List ActionKey → Attempt known (List { a : Action // a ∈ known })
  | [] => pure []
  | key :: keys => do
    Attempt.checkInterrupt
    let action ← Attempt.lookup key
    let actions ← lookupAll keys
    return action :: actions

/-- The actions that make an artifact, in the order of their keys; `none` if some of them are not
done, which means that they are being restarted already. -/
def producersOf (artifact : Artifact) : Attempt known (Option (List { a : Action // a ∈ known })) := do
  Attempt.checkInterrupt
  match ← Attempt.discover artifact with
  | none => return none
  | some producers => return some (← lookupAll producers.keys)

/-- Note some actions, and keep those that are new to the plan. -/
def noteAll (b : Builder) : List { a : Action // a ∈ known } → Spread known b
  | [] => ⟨b, [], by simp⟩
  | action :: actions =>
    if h : b.isNew action.1 then
      let rest := noteAll (b.note action.1) actions
      ⟨rest.builder, action :: rest.fresh, by
        have hr := rest.bound
        have hm : (b.note action.1).unmarked known < b.unmarked known := by
          have hn : (b.note action.1).unmarked known = (b.mark action.1.node).unmarked known := by
            simp [Builder.note, h, Builder.unmarked]
          rw [hn]
          exact Builder.unmarked_mark_lt action.2 (Builder.isNew_iff.1 h)
        simp only [List.length_cons]
        omega⟩
    else noteAll b actions

/-- Mark an artifact and note the actions that make it. -/
def spread (b : Builder) (artifact : Artifact) : Walk known (Spread known b) := do
  let marked := b.mark artifact.node
  have hm : marked.unmarked known ≤ b.unmarked known := b.unmarked_mark_le artifact.node known
  match ← within marked (producersOf artifact) with
  | none => return ⟨marked, [], by simpa using hm⟩
  | some actions =>
    let s := noteAll marked actions
    return ⟨s.builder, s.fresh, Nat.le_trans s.bound hm⟩

/-- Mark some artifacts, one after another, and note the actions that make them. -/
def spreadAll (b : Builder) : List Artifact → Walk known (Spread known b)
  | [] => return ⟨b, [], by simp⟩
  | artifact :: artifacts => do
    let s ← spread b artifact
    let t ← spreadAll s.builder artifacts
    return ⟨t.builder, s.fresh ++ t.fresh, by
      have hs := s.bound
      have ht := t.bound
      simp only [List.length_append]
      omega⟩

/-- Go through the queue. An action brings the nodes it wants restarted along; if it passes its inputs
on, these are spread to as well and the actions noted for them join the queue. -/
def visitAll (b : Builder) (queue : List { a : Action // a ∈ known }) : Walk known Builder :=
  match queue with
  | [] => return b
  | action :: queue => do
    within b Attempt.checkInterrupt
    let marked := b.markAll (action.1.rewindDeps.getD [])
    if action.1.propagates then
      let s ← spreadAll marked action.1.derivedInputs
      visitAll s.builder (queue ++ s.fresh)
    else visitAll marked queue
termination_by b.unmarked known + queue.length
decreasing_by
  · have hm := b.unmarked_markAll_le (action.1.rewindDeps.getD []) known
    have hs : _ ≤ (b.markAll (action.1.rewindDeps.getD [])).unmarked known := s.bound
    simp only [List.length_append, List.length_cons]
    omega
  · have hm := b.unmarked_markAll_le (action.1.rewindDeps.getD []) known
    simp only [List.length_cons]
    omega

/-- Restart an artifact and everything that is needed to make it again. -/
def rewind (b : Builder) (artifact : Artifact) : Walk known Builder := do
  let s ← spread b artifact
  visitAll s.builder s.fresh

/-- Restart some artifacts, one after another. -/
def rewindAll (b : Builder) : List Artifact → Walk known Builder
  | [] => return b
  | artifact :: artifacts => do
    let b ← rewind b artifact
    rewindAll b artifacts

end Walk

end Rewinding
