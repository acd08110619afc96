import Rewinding.Build
import Rewinding.Crew
import Rewinding.Planning

/-!
# Build sessions

A session ties a graph to the state of its build. It handles losses one at a time, or several by a
crew of computations on the one build.
-/

namespace Rewinding

/-- A graph, how its builds are run, and the state of the current one. -/
structure Session where
  graph : Graph
  reporter : Reporter
  /-- How many times one action may be rewound within a build. -/
  maxRewinds : UInt32
  build : Build := {}

namespace Session

/-! ### Views -/

def doneNodes (s : Session) : List Node := s.graph.nodes.filter s.build.evaluation.isDone

/-- The keys of the graph's actions whose last execution is remembered. -/
def cachedKeys (s : Session) : List ActionKey := s.graph.actions.keys.filter fun k => k ∈ s.build.cache

/-- The actions of the graph that were tried to be rewound, with the number of attempts. -/
def attemptCounts (s : Session) : List (ActionKey × UInt32) :=
  (s.graph.actions.keys.map fun k => (k, s.build.attemptsOf k)).filter fun c => c.2 ≠ 0

/-! ### Computations -/

def update (s : Session) (change : Build → Build) : Session := { s with build := change s.build }

def run (s : Session) (attempt : Attempt s.graph.roster α) : Except Stop α × Session :=
  let (result, build) := attempt.run.run (Build.world s.graph s.reporter) s.build
  (result, { s with build })

/-- What handles the loss of inputs of one action. -/
def handling (s : Session) (key : ActionKey) (loss : Loss) : Attempt s.graph.roster Outcome :=
  Planning.handle s.maxRewinds s.graph.runfilesOwners key loss

def handle (s : Session) (key : ActionKey) (loss : Loss) : Except Stop Outcome × Session :=
  s.run (s.handling key loss)

/-- Compute the plan for a failed action and apply nothing of it. -/
def planFor (s : Session) (failed : Action) (key : ActionKey) (directDeps : Std.ExtTreeSet Node)
    (loss : Loss) : Except Stop Plan × Session :=
  s.run (Planning.planFor failed key directDeps loss s.graph.runfilesOwners)

/-- Compute the plan for a failed action of the graph and apply nothing of it. -/
def planForKey (s : Session) (key : ActionKey) (loss : Loss) : Except Stop Plan × Session :=
  match s.graph.lookup key with
  | .error failure => (.error (.failure failure), s)
  | .ok failed => s.planFor failed.1 key failed.1.directDeps loss

/-! ### Several losses -/

/-- The computations that handle several losses side by side. -/
def crew (s : Session) (losses : List (ActionKey × Loss)) :
    Crew s.graph.roster (Except Stop Outcome) Build :=
  { members := losses.map fun (key, loss) => (s.handling key loss).run, state := s.build }

/-- Handle several losses, one after another. -/
def handleAll (s : Session) : List (ActionKey × Loss) → List (Except Stop Outcome) × Session
  | [] => ([], s)
  | (key, loss) :: losses =>
    let (result, s) := s.handle key loss
    let (results, s) := s.handleAll losses
    (result :: results, s)

/-- Handle several losses by a crew that works off one member after another. -/
def handleTogether (s : Session) (losses : List (ActionKey × Loss)) :
    Except String (List (Except Failure Outcome)) × Session :=
  let (results, s) := s.handleAll losses
  (gather results.length (results.zipIdx.map Prod.swap), s)

/-! ### Starting out -/

def completeAll (s : Session) : Session :=
  s.update fun b => { b with evaluation := b.evaluation.completeAll s.graph }

/-- Remember an execution of every action, with the digests of what it made. -/
def seedCache (s : Session) : Session :=
  s.update fun b => s.graph.roster.foldl (fun b a =>
    b.cacheResult a.key (a.outputs.filterMap fun o => b.evaluation.value? o.node)) b

/-! ### Losses that an executor would report -/

/-- What an executor would call the input at `path`, with the digest it would expect: an artifact of
the graph with its current value, if it is done, and a virtual input otherwise. -/
def expected? (s : Session) (path : String) : Option (String × Input) :=
  match s.graph.artifacts[path]? with
  | some a => (s.build.evaluation.value? (.artifact path)).map fun digest => (digest, .artifact a)
  | none => some (Blake3.digest (Evaluation.textBytes path), .virtual path)

/-- The loss of some paths, after those lost before; the first artifact that is not done ends it. -/
def addLost (s : Session) (loss : Loss) : List String → Except String Loss
  | [] => .ok loss
  | path :: paths =>
    match s.expected? path with
    | some (digest, input) => s.addLost (loss.withLost digest input) paths
    | none => .error path

/-- The loss of some paths, with the trees of the graph as owners. -/
def lossOf (s : Session) (message : String) (paths : List String) : Except String Loss :=
  s.addLost { message, owners := s.graph.treeOwners } paths

end Session

end Rewinding
