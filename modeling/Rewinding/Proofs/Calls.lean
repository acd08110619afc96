import Rewinding.Proofs.Walk

/-!
# Plans put together by calls

A plan grows by calls of three kinds: a node is marked, some nodes are marked, or an action is noted. Only
the last kind adds to the actions to evict, and only if the action's node is not marked yet; all kinds mark
nodes. So which actions are evicted depends on the order of the calls, and which nodes are restarted does
not (`Builder.follows_plan`).

Walks make their plans by such calls and no others. They go on with the actions that were new when they
were noted: `Walk.noteAll_eq` says that these are the ones that the calls accept.
-/

namespace Rewinding

variable {known : List Action}

/-! ### Directives -/

namespace Restart

theorem size_eq_length (r : Restart) : r.size = r.nodes.length := by
  show r.others.size + 1 = (r.self :: r.others.toList).length
  rw [List.length_cons, Std.ExtTreeSet.length_toList]

theorem contains_iff {r : Restart} {n : Node} : r.contains n = true ↔ n ∈ r.nodes := by
  unfold contains nodes
  rw [Bool.or_eq_true, decide_eq_true_eq, List.mem_cons, Std.ExtTreeSet.contains_iff_mem,
    Std.ExtTreeSet.mem_toList]

end Restart

/-! ### Calls -/

namespace Builder

/-- A call that extends a plan in the making. -/
inductive Call where
  | mark (node : Node)
  | markAll (nodes : List Node)
  | note (action : Action)

/-- The nodes that a call marks. -/
def Call.nodes : Call → List Node
  | .mark node => [node]
  | .markAll nodes => nodes
  | .note action => [action.node]

/-- The plan after a call. -/
def call (b : Builder) : Call → Builder
  | .mark node => b.mark node
  | .markAll nodes => b.markAll nodes
  | .note action => b.note action

def callAll (b : Builder) (calls : List Call) : Builder := calls.foldl call b

/-- The action that a call notes, if that is new to the plan. -/
def accepted? (b : Builder) : Call → Option Action
  | .note action => if b.isNew action then some action else none
  | _ => none

/-- The actions whose notes are answered with yes, in order. -/
def accepted (b : Builder) : List Call → List Action
  | [] => []
  | c :: calls => (b.accepted? c).toList ++ (b.call c).accepted calls

variable {b : Builder}

theorem callAll_append (b : Builder) (calls later : List Call) :
    b.callAll (calls ++ later) = (b.callAll calls).callAll later := List.foldl_append

theorem accepted_append (b : Builder) (calls later : List Call) :
    b.accepted (calls ++ later) = b.accepted calls ++ (b.callAll calls).accepted later := by
  induction calls generalizing b with
  | nil => rfl
  | cons c calls ih =>
    rw [List.cons_append, accepted, accepted, ih, List.append_assoc]
    rfl

/-! ### One call -/

theorem failed_call (c : Call) : (b.call c).failed = b.failed := by
  cases c with
  | mark node => rfl
  | markAll nodes => exact (b.extends_markAll nodes).failed
  | note action =>
    show (b.note action).failed = b.failed
    unfold note
    split <;> rfl

theorem mem_marked_call {c : Call} {n : Node} : n ∈ (b.call c).marked ↔ n ∈ c.nodes ∨ n ∈ b.marked := by
  cases c with
  | mark node => exact mem_mark.trans (or_congr_left (eq_comm.trans List.mem_singleton.symm))
  | markAll nodes => exact mem_markAll
  | note action => exact mem_marked_note.trans (or_congr_left (eq_comm.trans List.mem_singleton.symm))

/-- A call adds the action that it accepts to those to evict, and nothing else. -/
theorem noted_call (c : Call) : (b.call c).noted = b.noted ++ (b.accepted? c).toList := by
  cases c with
  | mark node => exact (b.extends_mark node).noted
  | markAll nodes => exact (b.extends_markAll nodes).noted
  | note action =>
    show (b.note action).noted = b.noted ++ (if b.isNew action = true then some action else none).toList
    by_cases hnew : b.isNew action = true
    · rw [if_pos hnew, (extends_note (isNew_iff.1 hnew)).noted, Option.toList_some]
    · unfold note
      rw [if_neg hnew, if_neg hnew, Option.toList_none, List.append_nil]

/-- What a call accepts was not marked before, and is afterwards. -/
theorem node_of_accepted? {c : Call} {action : Action} (h : b.accepted? c = some action) :
    action.node ∉ b.marked ∧ action.node ∈ c.nodes := by
  cases c with
  | mark _ | markAll _ => cases h
  | note other =>
    obtain ⟨hnew, he⟩ := Option.ite_none_right_eq_some.1 h
    cases he
    exact ⟨isNew_iff.1 hnew, List.mem_singleton_self _⟩

/-! ### All calls -/

theorem failed_callAll (calls : List Call) : (b.callAll calls).failed = b.failed := by
  induction calls generalizing b with
  | nil => rfl
  | cons c calls ih => exact (ih (b := b.call c)).trans (failed_call c)

theorem mem_marked_callAll {calls : List Call} {n : Node} :
    n ∈ (b.callAll calls).marked ↔ (∃ c ∈ calls, n ∈ c.nodes) ∨ n ∈ b.marked := by
  induction calls generalizing b with
  | nil => simp [callAll]
  | cons c calls ih =>
    show n ∈ ((b.call c).callAll calls).marked ↔ _
    simp only [ih, mem_marked_call, List.mem_cons, exists_eq_or_imp]
    rw [or_left_comm, or_assoc]

theorem noted_callAll (calls : List Call) : (b.callAll calls).noted = b.noted ++ b.accepted calls := by
  induction calls generalizing b with
  | nil => exact (List.append_nil _).symm
  | cons c calls ih =>
    show ((b.call c).callAll calls).noted = _
    rw [ih, noted_call, accepted, List.append_assoc]

/-- What is accepted was not marked at the start, and is at the end. -/
theorem node_of_mem_accepted {calls : List Call} {action : Action} (h : action ∈ b.accepted calls) :
    action.node ∉ b.marked ∧ action.node ∈ (b.callAll calls).marked := by
  induction calls generalizing b with
  | nil => cases h
  | cons c calls ih =>
    show _ ∧ action.node ∈ ((b.call c).callAll calls).marked
    obtain h | h := List.mem_append.1 h
    · obtain ⟨hnew, hc⟩ := node_of_accepted? (Option.mem_toList.1 h)
      exact ⟨hnew, mem_marked_callAll.2 (Or.inr (mem_marked_call.2 (Or.inl hc)))⟩
    · obtain ⟨hnew, hmarked⟩ := ih h
      exact ⟨fun hm => hnew (mem_marked_call.2 (Or.inr hm)), hmarked⟩

/-- No action is accepted twice, as the first time marks its node. -/
theorem nodup_accepted (calls : List Call) : ((b.accepted calls).map Action.key).Nodup := by
  induction calls generalizing b with
  | nil => exact List.nodup_nil
  | cons c calls ih =>
    rw [accepted, List.map_append, List.nodup_append]
    refine ⟨?_, ih, ?_⟩
    · cases b.accepted? c with
      | none => exact List.nodup_nil
      | some action => simp
    · rintro k hk k' hk' rfl
      obtain ⟨action, ha, rfl⟩ := List.mem_map.1 hk
      obtain ⟨other, ho, he⟩ := List.mem_map.1 hk'
      have hnode : other.node = action.node := congrArg Node.action he
      obtain ⟨-, hc⟩ := node_of_accepted? (Option.mem_toList.1 ha)
      exact (node_of_mem_accepted ho).1 (hnode ▸ mem_marked_call.2 (Or.inl hc))

theorem mem_marked_start {failed : ActionKey} {n : Node} :
    n ∈ (start failed).marked ↔ n = .action failed := by
  simp [start, eq_comm (a := n)]

end Builder

/-! ### The plan -/

/-- What a plan for `failed` looks like that was put together by some calls. -/
structure Plan.Follows (p : Plan) (failed : ActionKey) (calls : List Builder.Call) : Prop where
  self : p.restart.self = .action failed
  /-- The node of the failed action comes first, then each other node that was marked, in ascending order
  and so no node twice. -/
  nodes : ∃ others, p.restart.nodes = .action failed :: others ∧
    others.Pairwise (fun n n' => compare n n' = .lt) ∧
    ∀ n, n ∈ others ↔ n ≠ .action failed ∧ ∃ c ∈ calls, n ∈ c.nodes
  size : p.restart.size = p.restart.nodes.length
  contains (n : Node) : p.restart.contains n = true ↔ n ∈ p.restart.nodes
  distinct : p.additionalKeys.Nodup
  notFailed : failed ∉ p.additionalKeys
  restarted : ∀ k ∈ p.additionalKeys, .action k ∈ p.restart.nodes
  additional : p.additional = (Builder.start failed).accepted calls

namespace Builder

theorem mem_others_plan {b : Builder} {n : Node} :
    n ∈ b.plan.restart.others.toList ↔ n ≠ .action b.failed ∧ n ∈ b.marked := by
  rw [Std.ExtTreeSet.mem_toList]
  show n ∈ b.marked.erase (.action b.failed) ↔ _
  rw [Std.ExtTreeSet.mem_erase, ne_eq, Std.LawfulEqCmp.compare_eq_iff_eq, eq_comm]

/-- **Plans are well formed, whatever calls they come from.** Its nodes are those that the calls marked,
with the failed action's first; its actions are those whose notes were answered with yes, each once and
never the failed one. After any calls, the next note is answered with yes exactly if the node of its action
is not that of the failed one and was marked by none of them. -/
theorem follows_plan (failed : ActionKey) (calls : List Call) :
    ((start failed).callAll calls).plan.Follows failed calls ∧
    ∀ action, ((start failed).callAll calls).isNew action = true ↔
      action.node ≠ .action failed ∧ ∀ c ∈ calls, action.node ∉ c.nodes := by
  have hfailed : ((start failed).callAll calls).failed = failed := failed_callAll calls
  have hmarked {n : Node} : n ∈ ((start failed).callAll calls).marked ↔
      (∃ c ∈ calls, n ∈ c.nodes) ∨ n = .action failed := by
    rw [mem_marked_callAll, mem_marked_start]
  have hadditional : ((start failed).callAll calls).plan.additional = (start failed).accepted calls :=
    noted_callAll calls
  have hkeys : ((start failed).callAll calls).plan.additionalKeys =
      ((start failed).accepted calls).map Action.key := congrArg (List.map Action.key) hadditional
  constructor
  · constructor
    case self => exact congrArg Node.action hfailed
    case nodes =>
      refine ⟨((start failed).callAll calls).plan.restart.others.toList, ?_,
        Std.ExtTreeSet.ordered_toList, fun n => ?_⟩
      · exact congrArg (Node.action · :: _) hfailed
      · rw [mem_others_plan, hfailed, hmarked]
        exact and_congr_right fun hne => or_iff_left hne
    case size => exact Restart.size_eq_length _
    case contains => exact fun n => Restart.contains_iff
    case distinct =>
      rw [hkeys]
      exact nodup_accepted calls
    case notFailed =>
      rw [hkeys]
      intro hk
      obtain ⟨action, ha, he⟩ := List.mem_map.1 hk
      exact (node_of_mem_accepted ha).1 (mem_marked_start.2 (congrArg Node.action he))
    case restarted =>
      rw [hkeys]
      intro k hk
      obtain ⟨action, ha, rfl⟩ := List.mem_map.1 hk
      exact mem_nodes_plan.2 (Or.inr (node_of_mem_accepted ha).2)
    case additional => exact hadditional
  · intro action
    rw [isNew_iff, hmarked, not_or, and_comm]
    simp

/-- Only `//q#0` is accepted, and only once: `//f#0` has failed, and the node of `//p#0` is marked before. -/
example :
    let calls : List Call := [.note { key := ⟨"//f", 0⟩ }, .mark (.action ⟨"//p", 0⟩),
      .note { key := ⟨"//p", 0⟩ }, .note { key := ⟨"//q", 0⟩ }, .note { key := ⟨"//q", 0⟩ }]
    let plan := ((start ⟨"//f", 0⟩).callAll calls).plan
    plan.additionalKeys = [⟨"//q", 0⟩] ∧
      plan.restart.nodes = [.action ⟨"//f", 0⟩, .action ⟨"//p", 0⟩, .action ⟨"//q", 0⟩] := by
  decide +kernel

end Builder

/-! ### Walks make such calls -/

/-- Noting some actions in a walk is to make a call for each, and what is kept is what is accepted. -/
theorem Walk.noteAll_eq (b : Builder) (actions : List { a : Action // a ∈ known }) :
    (noteAll b actions).builder = b.callAll (actions.map fun a => .note a.1) ∧
    (noteAll b actions).fresh.map Subtype.val = b.accepted (actions.map fun a => .note a.1) := by
  induction actions generalizing b with
  | nil => exact ⟨rfl, rfl⟩
  | cons action actions ih =>
    unfold noteAll
    split
    case isTrue hnew =>
      have hsome : b.accepted? (.note action.1) = some action.1 := if_pos hnew
      obtain ⟨hbuilder, hfresh⟩ := ih (b.note action.1)
      rw [List.map_cons, Builder.accepted, hsome]
      exact ⟨hbuilder, congrArg (action.1 :: ·) hfresh⟩
    case isFalse hold =>
      have hsame : b.call (.note action.1) = b := if_neg hold
      have hnone : b.accepted? (.note action.1) = none := if_neg hold
      rw [List.map_cons, Builder.accepted, hnone, hsame]
      show _ = (b.call (.note action.1)).callAll _ ∧ _
      rw [hsame]
      exact ih b

end Rewinding
