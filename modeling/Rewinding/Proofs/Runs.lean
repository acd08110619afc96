import Rewinding.Proofs.Effect

/-!
# Runs of a session

Between two losses nodes are completed, and builds begin and are cancelled. A `Move` is one thing that
happens to a session, and `play` lets several happen, one after another. What holds of a run is proved
of a move first; of a handling it is enough to know what becomes of the nodes (`evaluation_handle`) and
of the history (`mem_history_handle`).
-/

namespace Rewinding.Session

/-- A session in which nothing has happened yet. -/
def blank (c : Config) (reporter : Reporter) (maxRewinds : UInt32) : Session where
  graph := .ofConfig c
  reporter
  maxRewinds

/-- What may happen to a session. -/
inductive Move where
  /-- A new build begins. -/
  | begin
  /-- The build is cancelled. -/
  | cancel
  | complete (node : Node)
  /-- The loss of inputs of an action is handled. -/
  | handle (key : ActionKey) (loss : Loss)

def make (s : Session) : Move → Session
  | .begin => s.update Build.begin
  | .cancel => s.update Build.cancel
  | .complete node => s.update fun b => b.complete node
  | .handle key loss => (s.handle key loss).2

def play (s : Session) (moves : List Move) : Session := moves.foldl make s

theorem play_cons (s : Session) (move : Move) (moves : List Move) :
    s.play (move :: moves) = (s.make move).play moves := rfl

theorem play_append (s : Session) (moves moves' : List Move) :
    s.play (moves ++ moves') = (s.play moves).play moves' := List.foldl_append

/-- A session stays on its graph. -/
@[simp]
theorem graph_make (s : Session) (move : Move) : (s.make move).graph = s.graph := by
  cases move <;> rfl

@[simp]
theorem graph_play (s : Session) (moves : List Move) : (s.play moves).graph = s.graph := by
  induction moves generalizing s with
  | nil => rfl
  | cons move moves ih => rw [play_cons, ih, graph_make]

/-! ### What a handling changes -/

/-- A handling leaves the nodes alone or restarts some of them. -/
theorem evaluation_handle (s : Session) (key : ActionKey) (loss : Loss) :
    (s.handle key loss).2.build.evaluation = s.build.evaluation ∨
      ∃ r, (s.handle key loss).2.build.evaluation = (s.build.evaluation.restart r).2 := by
  cases h : (s.handle key loss).1 with
  | error stop => exact Or.inl (evaluation_handle_of_error h)
  | ok o => exact Or.inr ⟨_, (applied_handle h).evaluation⟩

/-- A handling completes nothing. -/
theorem isDone_of_handle {s : Session} {key : ActionKey} {loss : Loss} {n : Node}
    (h : (s.handle key loss).2.build.evaluation.isDone n = true) :
    s.build.evaluation.isDone n = true := by
  obtain he | ⟨r, he⟩ := s.evaluation_handle key loss
  · rwa [he] at h
  · rw [he, Evaluation.isDone_restart] at h
    exact h.2

theorem generation_handle (s : Session) (key : ActionKey) (loss : Loss) (n : Node) :
    (s.handle key loss).2.build.evaluation.generation n = s.build.evaluation.generation n := by
  obtain he | ⟨r, he⟩ := s.evaluation_handle key loss
  · rw [he]
  · rw [he, Evaluation.generation_restart]

/-- A handling remembers losses of its own action only. -/
theorem mem_history_handle {s : Session} {key : ActionKey} {loss : Loss} {l : LossRecord}
    (hl : l ∈ (s.handle key loss).2.build.history) : l ∈ s.build.history ∨ l.key = key := by
  have hend := s.handled_handle key loss
  generalize (s.handle key loss).1 = result at hend
  generalize (s.handle key loss).2.build = b at hend hl
  cases hend with
  | cancelled _ | unknown _ _ | exceeded _ _ _ => exact Or.inl hl
  | unplanned _ _ _ hp => exact hp.sameButMemory.own hl
  | done _ _ _ hp =>
    rw [Build.evictEach_snd] at hl
    exact hp.sameButMemory.own hl

/-! ### What is completed -/

def Move.completed? : Move → Option Node
  | .complete node => some node
  | _ => none

/-- The nodes that are completed in a run. -/
def completed (moves : List Move) : List Node := moves.filterMap Move.completed?

theorem completed_cons (move : Move) (moves : List Move) :
    completed (move :: moves) = move.completed?.toList ++ completed moves := by
  unfold completed
  rw [List.filterMap_cons]
  cases move.completed? <;> rfl

theorem completed_append (moves moves' : List Move) :
    completed (moves ++ moves') = completed moves ++ completed moves' := List.filterMap_append

/-- What a move hashes: the node that it completes, with the generation that this one comes to. -/
def hashes (s : Session) (move : Move) : List (Node × UInt64) :=
  move.completed?.toList.map fun node => (node, s.build.evaluation.generation node + 1)

theorem hashes_of_completed? {s : Session} {move : Move} (h : move.completed? = none) :
    s.hashes move = [] := by
  unfold hashes
  rw [h]
  rfl

theorem map_fst_hashes (s : Session) (move : Move) :
    (s.hashes move).map Prod.fst = move.completed?.toList := by
  unfold hashes
  cases move.completed? <;> rfl

/-- What is hashed in a run. -/
def hashed (s : Session) : List Move → List (Node × UInt64)
  | [] => []
  | move :: moves => s.hashes move ++ (s.make move).hashed moves

theorem hashed_cons (s : Session) (move : Move) (moves : List Move) :
    s.hashed (move :: moves) = s.hashes move ++ (s.make move).hashed moves := rfl

theorem hashed_append (s : Session) (moves moves' : List Move) :
    s.hashed (moves ++ moves') = s.hashed moves ++ (s.play moves).hashed moves' := by
  induction moves generalizing s with
  | nil => rfl
  | cons move moves ih =>
    rw [List.cons_append, hashed_cons, ih, hashed_cons, play_cons, List.append_assoc]

theorem map_fst_hashed (s : Session) (moves : List Move) :
    (s.hashed moves).map Prod.fst = completed moves := by
  induction moves generalizing s with
  | nil => rfl
  | cons move moves ih =>
    rw [hashed_cons, List.map_append, map_fst_hashes, ih, completed_cons]

end Rewinding.Session
