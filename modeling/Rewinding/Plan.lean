import Rewinding.Action
import Rewinding.Restart

/-!
# Rewind plans

A plan says which nodes to restart so that lost inputs are made again, and which actions besides the
failed one must forget their last execution. It grows in a `Builder`, which marks nodes and notes
actions; the failed action's node is marked from the start, so that action is never noted.
-/

namespace Rewinding

/-- What to do so that the lost inputs of a failed action are made again. -/
structure Plan where
  restart : Restart
  /-- Actions other than the failed one whose state must be evicted, in the order in which they were
  found. -/
  additional : List Action

def Plan.additionalKeys (p : Plan) : List ActionKey := p.additional.map Action.key

/-- A plan in the making. -/
structure Builder where
  failed : ActionKey
  marked : Std.ExtTreeSet Node
  /-- The actions to evict, in the order in which they were found. -/
  noted : List Action

namespace Builder

/-- A plan that restarts the failed action only. -/
def start (failed : ActionKey) : Builder :=
  { failed, marked := {.action failed}, noted := [] }

def mark (b : Builder) (node : Node) : Builder := { b with marked := b.marked.insert node }

def markAll (b : Builder) (nodes : List Node) : Builder := nodes.foldl mark b

/-- Whether an action is new to the plan: what noting it is answered with. -/
def isNew (b : Builder) (action : Action) : Bool := action.node ∉ b.marked

/-- Mark the node of an action and note the action, unless the node is marked already. -/
def note (b : Builder) (action : Action) : Builder :=
  if b.isNew action then { b.mark action.node with noted := b.noted ++ [action] } else b

def plan (b : Builder) : Plan :=
  { restart := .of (.action b.failed) b.marked, additional := b.noted }

/-! ### How many actions can still be noted -/

/-- The number of entries of `known` whose node is not marked. -/
def unmarked (b : Builder) (known : List Action) : Nat :=
  (known.filter fun a => a.node ∉ b.marked).length

theorem isNew_iff {b : Builder} {action : Action} : b.isNew action = true ↔ action.node ∉ b.marked :=
  decide_eq_true_iff

theorem not_isNew_iff {b : Builder} {action : Action} :
    ¬b.isNew action = true ↔ action.node ∈ b.marked := by
  rw [isNew_iff, Decidable.not_not]

theorem mem_mark {b : Builder} {node n : Node} : n ∈ (b.mark node).marked ↔ node = n ∨ n ∈ b.marked := by
  simp [mark]

theorem length_filter_le_of_imp {p q : α → Bool} {l : List α} (h : ∀ a ∈ l, p a → q a) :
    (l.filter p).length ≤ (l.filter q).length := by
  rw [← List.countP_eq_length_filter, ← List.countP_eq_length_filter]
  exact List.countP_mono_left h

theorem length_filter_lt_of_imp {p q : α → Bool} {l : List α} (h : ∀ a ∈ l, p a → q a) {x : α}
    (hx : x ∈ l) (hq : q x) (hp : ¬ p x) : (l.filter p).length < (l.filter q).length := by
  induction l with
  | nil => cases hx
  | cons a l ih =>
    have hl : ∀ a ∈ l, p a → q a := fun a ha => h a (List.mem_cons_of_mem _ ha)
    rcases List.mem_cons.1 hx with rfl | hx
    · have := length_filter_le_of_imp hl
      simpa [List.filter_cons, hq, hp] using Nat.lt_succ_of_le this
    · have := ih hl hx
      by_cases hpa : p a
      · simpa [hpa, h a List.mem_cons_self hpa] using this
      · by_cases hqa : q a
        · simpa [hpa, hqa] using Nat.lt_succ_of_lt this
        · simpa [hpa, hqa] using this

theorem unmarked_mark_le (b : Builder) (node : Node) (known : List Action) :
    (b.mark node).unmarked known ≤ b.unmarked known := by
  refine length_filter_le_of_imp fun a _ h => ?_
  simp only [mem_mark, decide_eq_true_eq] at h ⊢
  exact fun hm => h (Or.inr hm)

theorem unmarked_markAll_le (b : Builder) (nodes : List Node) (known : List Action) :
    (b.markAll nodes).unmarked known ≤ b.unmarked known := by
  induction nodes generalizing b with
  | nil => exact Nat.le_refl _
  | cons n ns ih => exact Nat.le_trans (ih (b.mark n)) (unmarked_mark_le b n known)

/-- Marking the node of a known action leaves fewer. -/
theorem unmarked_mark_lt {b : Builder} {action : Action} {known : List Action}
    (hk : action ∈ known) (hm : action.node ∉ b.marked) :
    (b.mark action.node).unmarked known < b.unmarked known := by
  refine length_filter_lt_of_imp (fun a _ h => ?_) hk ?_ ?_
  · simp only [mem_mark, decide_eq_true_eq] at h ⊢
    exact fun hm => h (Or.inr hm)
  · simpa using hm
  · simp [mem_mark]

end Builder

end Rewinding
