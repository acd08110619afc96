/-!
# Precedence graphs and their cycles

A precedence graph lists its nodes and says which of them come directly before which. `culprit?`
searches it for a cycle in two passes and names a node of the cycle that it meets first:

* `finishOrder` searches forwards, depth first, and puts every node in front of those it leads to;
  a node before itself ends the search at once.
* `culprit?` then goes through that order. In a graph without a cycle everything before a node has
  come by when the node does, so a node that is still to come lies on a cycle.

Which node is named depends on the order of nodes and edges, as given.
-/

namespace Rewinding

/-- Nodes, and pairs of a node and one that comes directly after it. -/
structure Precedence (α : Type) where
  nodes : List α
  edges : List (α × α)
  deriving Repr

namespace Precedence

variable {α : Type} [DecidableEq α]

/-- The nodes directly after `v`. -/
def successors (g : Precedence α) (v : α) : List α :=
  (g.edges.filter fun e => e.1 = v).map Prod.snd

def predecessors (g : Precedence α) (v : α) : List α :=
  (g.edges.filter fun e => e.2 = v).map Prod.fst

/-! ### The forward search -/

/-- What the search still has to do at a node: look at it, or leave it for good. -/
inductive Visit (α : Type) where
  | enter (v : α)
  | leave (v : α)

def Visit.cost : Visit α → Nat
  | .enter _ => 2
  | .leave _ => 1

def Visit.costs : List (Visit α) → Nat
  | [] => 0
  | visit :: visits => visit.cost + costs visits

/-- What a search can still cost: its visits, and the edges out of nodes it has not found. -/
def searchCost (g : Precedence α) (visits : List (Visit α)) (found : List α) : Nat :=
  Visit.costs visits + 2 * (g.edges.filter fun e => e.1 ∉ found).length

omit [DecidableEq α] in
theorem costs_append (visits others : List (Visit α)) :
    Visit.costs (visits ++ others) = Visit.costs visits + Visit.costs others := by
  induction visits with
  | nil => exact (Nat.zero_add _).symm
  | cons visit visits ih => simp only [List.cons_append, Visit.costs, ih, Nat.add_assoc]

omit [DecidableEq α] in
theorem costs_map_enter (vs : List α) : Visit.costs (vs.map Visit.enter) = 2 * vs.length := by
  induction vs with
  | nil => rfl
  | cons v vs ih =>
    simp only [List.map_cons, Visit.costs, ih, Visit.cost, List.length_cons]
    omega

/-- Finding `v` pays for a visit to everything after it. -/
theorem length_successors_add_le (g : Precedence α) {v : α} {found : List α} (h : v ∉ found) :
    (g.successors v).length + (g.edges.filter fun e => e.1 ∉ v :: found).length ≤
      (g.edges.filter fun e => e.1 ∉ found).length := by
  simp only [successors, List.length_map]
  induction g.edges with
  | nil => simp
  | cons e es ih =>
    by_cases hv : e.1 = v
    · simp [hv, h] at ih ⊢; omega
    · by_cases hf : e.1 ∈ found
      · simpa [List.filter_cons, hv, hf] using ih
      · simp [hv, hf] at ih ⊢; omega

/-- Run the search. `found` holds the nodes that were entered and `finished` those that were left,
the last one first. The search ends with the first node that comes directly before itself. -/
def search (g : Precedence α) (visits : List (Visit α)) (found finished : List α) :
    Except α (List α × List α) :=
  match visits with
  | [] => .ok (found, finished)
  | .leave v :: visits => search g visits found (v :: finished)
  | .enter v :: visits =>
    if h : v ∈ found then search g visits found finished
    else if v ∈ g.successors v then .error v
    else
      let next := (g.successors v).filter fun w => w ∉ v :: found
      search g ((next.reverse.map .enter) ++ .leave v :: visits) (v :: found) finished
termination_by g.searchCost visits found
decreasing_by
  · simp only [searchCost, Visit.costs, Visit.cost]
    omega
  · simp only [searchCost, Visit.costs, Visit.cost]
    omega
  · have hp := g.length_successors_add_le h
    have hf : ((g.successors v).filter fun w => w ∉ v :: found).length ≤ (g.successors v).length :=
      List.length_filter_le ..
    simp only [searchCost, costs_append, costs_map_enter, Visit.costs, Visit.cost, List.length_reverse]
    omega

def searchAll (g : Precedence α) : List α → List α → List α → Except α (List α)
  | [], _, finished => .ok finished
  | v :: vs, found, finished =>
    match g.search [.enter v] found finished with
    | .error w => .error w
    | .ok (found, finished) => searchAll g vs found finished

/-- The nodes in an order that puts each in front of those it leads to, where there is one. -/
def finishOrder (g : Precedence α) : Except α (List α) := g.searchAll g.nodes [] []

/-! ### The check of the order -/

/-- Go through an order and stop where something before a node is still to come. Of several such
nodes the last one is named. -/
def firstLate? (g : Precedence α) (seen : List α) : List α → Option α
  | [] => none
  | v :: vs =>
    match ((g.predecessors v).filter fun w => w ∉ v :: seen).getLast? with
    | some w => some w
    | none => firstLate? g (v :: seen) vs

/-- A node on a cycle, if there is a cycle. -/
def culprit? (g : Precedence α) : Option α :=
  match g.finishOrder with
  | .error v => some v
  | .ok order => g.firstLate? [] order

end Precedence

end Rewinding
