import Rewinding.Blake3
import Rewinding.Graph
import Rewinding.Restart

/-!
# Evaluating the nodes of a graph

A node is done while it has a value. Completing it gives it one that it never had before: the hash of
its name and of how often it has been completed. Restarting it takes the value away.

Nodes that are in no graph can be completed and restarted like any other.
-/

namespace Rewinding

/-- Which nodes are done, and how often each has been completed. -/
structure Evaluation where
  done : Std.ExtTreeMap Node String := ∅
  generations : Std.ExtTreeMap Node UInt64 := ∅

namespace Evaluation

def textBytes (s : String) : List UInt8 := s.toUTF8.toList

/-- The eight bytes of a number, the lowest first. -/
def numberBytes (n : UInt64) : List UInt8 :=
  (List.range 8).map fun i => (n >>> (8 * i).toUInt64).toUInt8

/-- What the value of a node is the hash of. -/
def valueBytes (node : Node) (generation : UInt64) : List UInt8 :=
  textBytes node.text ++ numberBytes generation

def isDone (e : Evaluation) (node : Node) : Bool := node ∈ e.done

def value? (e : Evaluation) (node : Node) : Option String := e.done[node]?

/-- How often a node has been completed. -/
def generation (e : Evaluation) (node : Node) : UInt64 := e.generations[node]?.getD 0

/-- The value that completing a node gives it. -/
def nextValue (e : Evaluation) (node : Node) : String :=
  Blake3.digest (valueBytes node (e.generation node + 1))

def complete (e : Evaluation) (node : Node) : Evaluation where
  done := e.done.insert node (e.nextValue node)
  generations := e.generations.insert node (e.generation node + 1)

/-- Complete every node of a graph once. -/
def completeAll (e : Evaluation) (g : Graph) : Evaluation := g.nodes.foldl complete e

def invalidate (e : Evaluation) (node : Node) : Evaluation := { e with done := e.done.erase node }

/-- Make the nodes of a directive not done; how many of them were done. -/
def restart (e : Evaluation) (r : Restart) : Nat × Evaluation :=
  ((r.nodes.filter e.isDone).length, r.nodes.foldl invalidate e)

/-- What an artifact depends on. Nothing is known as long as some producer is not done, and a source
has none. -/
def discover (e : Evaluation) (g : Graph) (a : Artifact) : Except Failure (Option Producers) :=
  match g.producers[a.path]? with
  | none => .error (.unknownArtifact a.path)
  | some producers =>
    .ok (if producers.keys.all fun key => e.isDone (.action key) then some producers else none)

end Evaluation

end Rewinding
