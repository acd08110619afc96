import Rewinding.Proofs.Freshness
import Rewinding.Proofs.LostPaths
import Rewinding.Proofs.Names

/-!
# What the nodes of a graph have been through

Nodes are completed, one by one or all at once, and restarted. Two tables keep what is left of that: the
values of the nodes that are done, and the generations. `evaluation_of_changes` reads both off the changes:

* a generation counts how often its node was completed;
* a node is done if no restart came after the last time that it was completed;
* no two completions hash the same bytes, so a value does not come back.

The last of these is what `Evaluation.Traced` and `Evaluation.Fresh` carry through a run: a completion takes
its node to a generation that the node never had, and nodes are told apart by their names.
-/

namespace Rewinding.Evaluation

/-! ### Changes -/

/-- What may happen to the nodes of a graph. -/
inductive Change where
  | complete (node : Node)
  | completeAll
  | restart (r : Restart)

namespace Change

/-- The nodes that a change completes, in order. -/
def completes (g : Graph) : Change → List Node
  | .complete node => [node]
  | .completeAll => g.nodes
  | .restart _ => []

/-- The nodes that a change restarts. -/
def restarts : Change → List Node
  | .restart r => r.nodes
  | .complete _ | .completeAll => []

/-- Some change completes the node, and none after it does so or restarts the node. -/
def LeaveDone (g : Graph) (changes : List Change) (n : Node) : Prop :=
  ∃ before last after, changes = before ++ last :: after ∧ n ∈ last.completes g ∧
    ∀ later ∈ after, n ∉ later.completes g ∧ n ∉ later.restarts

/-- The nodes that some changes complete, each as often as they do so. -/
def completed (g : Graph) (changes : List Change) : List Node := changes.flatMap (completes g)

end Change

variable {g : Graph} {e : Evaluation} {past : List (Node × UInt64)}

def change (g : Graph) (e : Evaluation) : Change → Evaluation
  | .complete node => e.complete node
  | .completeAll => e.completeAll g
  | .restart r => (e.restart r).2

def changeAll (g : Graph) (e : Evaluation) (changes : List Change) : Evaluation :=
  changes.foldl (change g) e

theorem changeAll_cons (g : Graph) (e : Evaluation) (c : Change) (changes : List Change) :
    e.changeAll g (c :: changes) = (e.change g c).changeAll g changes := rfl

theorem changeAll_concat (g : Graph) (e : Evaluation) (changes : List Change) (c : Change) :
    e.changeAll g (changes ++ [c]) = (e.changeAll g changes).change g c := List.foldl_concat ..

/-! ### What is hashed -/

/-- A node that is completed, and the evaluation in which that happens. -/
structure Completion where
  before : Evaluation
  node : Node

namespace Completion

/-- The generation that the node comes to. -/
def generation (c : Completion) : UInt64 := c.before.generation c.node + 1

/-- What is hashed. -/
def bytes (c : Completion) : List UInt8 := valueBytes c.node c.generation

/-- The value that the node gets. -/
def value (c : Completion) : String := c.before.nextValue c.node

theorem value_eq_digest (c : Completion) : c.value = Blake3.digest c.bytes := rfl

/-- The node with its generation. -/
def stamp (c : Completion) : Node × UInt64 := (c.node, c.generation)

/-- The bytes tell the node and its generation. -/
theorem stamp_eq_of_bytes {c c' : Completion} (h : c.bytes = c'.bytes) : c.stamp = c'.stamp := by
  obtain ⟨htext, hgeneration⟩ := eq_of_valueBytes h
  exact Prod.ext (Node.text_injective htext) hgeneration

end Completion

/-- The completions of some nodes, one after another. -/
def completionsOf (e : Evaluation) : List Node → List Completion
  | [] => []
  | node :: nodes => ⟨e, node⟩ :: (e.complete node).completionsOf nodes

/-- The completions of some changes. -/
def completions (g : Graph) (e : Evaluation) : List Change → List Completion
  | [] => []
  | c :: changes => e.completionsOf (c.completes g) ++ (e.change g c).completions g changes

theorem map_node_completionsOf (e : Evaluation) (nodes : List Node) :
    (e.completionsOf nodes).map Completion.node = nodes := by
  induction nodes generalizing e with
  | nil => rfl
  | cons node nodes ih => rw [completionsOf, List.map_cons, ih]

theorem map_node_completions (g : Graph) (e : Evaluation) (changes : List Change) :
    (e.completions g changes).map Completion.node = Change.completed g changes := by
  induction changes generalizing e with
  | nil => rfl
  | cons c changes ih =>
    rw [completions, List.map_append, map_node_completionsOf, ih]
    rfl

/-! ### What a run keeps -/

/-- What was hashed in the past accounts for the evaluation, and no generation of a node was hashed twice. -/
structure Fresh (past : List (Node × UInt64)) (e : Evaluation) : Prop extends Traced past e where
  nodup : past.Nodup

theorem Fresh.empty : Fresh [] {} := ⟨.empty, List.nodup_nil⟩

/-- A completion takes its node to a generation that was not hashed before. -/
theorem Fresh.complete (h : Fresh past e) {node : Node}
    (hcount : (past.map Prod.fst).count node + 1 < 2 ^ 64) :
    Fresh (past ++ [(node, e.generation node + 1)]) (e.complete node) := by
  refine ⟨h.toTraced.complete hcount, List.Nodup.append h.nodup (List.nodup_singleton _) ?_⟩
  rw [List.disjoint_singleton]
  intro hmem
  have hle := UInt64.le_iff_toNat_le.1 (h.le hmem)
  have hnext := h.toNat_generation_add_one hcount
  omega

theorem Fresh.restart (h : Fresh past e) (r : Restart) : Fresh past (e.restart r).2 :=
  ⟨h.toTraced.restart r, h.nodup⟩

theorem Fresh.completeEach (h : Fresh past e) {nodes : List Node}
    (hcount : ∀ n, (past.map Prod.fst ++ nodes).count n < 2 ^ 64) :
    Fresh (past ++ (e.completionsOf nodes).map Completion.stamp) (nodes.foldl Evaluation.complete e) := by
  induction nodes generalizing e past with
  | nil =>
    rw [completionsOf, List.map_nil, List.append_nil]
    exact h
  | cons node nodes ih =>
    have hnode : (past.map Prod.fst).count node + 1 < 2 ^ 64 := by
      have hnode := hcount node
      rw [List.count_append, List.count_cons_self] at hnode
      omega
    have hnext := h.complete hnode
    rw [completionsOf, List.map_cons, List.append_cons]
    refine ih hnext fun n => ?_
    rw [List.map_append, List.append_assoc]
    exact hcount n

/-- **A change keeps evaluations fresh.** -/
theorem Fresh.change (h : Fresh past e) {c : Change}
    (hcount : ∀ n, (past.map Prod.fst ++ c.completes g).count n < 2 ^ 64) :
    Fresh (past ++ (e.completionsOf (c.completes g)).map Completion.stamp) (e.change g c) := by
  cases c with
  | complete node => exact h.completeEach hcount
  | completeAll => exact h.completeEach hcount
  | restart r =>
    rw [Change.completes, completionsOf, List.map_nil, List.append_nil]
    exact h.restart r

/-- **A run keeps evaluations fresh.** -/
theorem Fresh.changeAll (h : Fresh past e) {changes : List Change}
    (hcount : ∀ n, (past.map Prod.fst ++ Change.completed g changes).count n < 2 ^ 64) :
    Fresh (past ++ (e.completions g changes).map Completion.stamp) (e.changeAll g changes) := by
  induction changes generalizing e past with
  | nil =>
    rw [completions, List.map_nil, List.append_nil]
    exact h
  | cons c changes ih =>
    have hsplit : Change.completed g (c :: changes) = c.completes g ++ Change.completed g changes := rfl
    rw [hsplit] at hcount
    have hfirst : ∀ n, (past.map Prod.fst ++ c.completes g).count n < 2 ^ 64 := by
      intro n
      have hn := hcount n
      rw [← List.append_assoc, List.count_append] at hn
      omega
    have hstamps : ((e.completionsOf (c.completes g)).map Completion.stamp).map Prod.fst =
        c.completes g := by
      rw [List.map_map]
      exact map_node_completionsOf e _
    rw [completions, List.map_append, ← List.append_assoc, changeAll_cons]
    refine ih (h.change hfirst) fun n => ?_
    rw [List.map_append, hstamps, List.append_assoc]
    exact hcount n

/-! ### What is done -/

theorem isDone_change {c : Change} {n : Node} : (e.change g c).isDone n = true ↔
    n ∈ c.completes g ∨ n ∉ c.restarts ∧ e.isDone n = true := by
  cases c with
  | complete node =>
    show (e.complete node).isDone n = true ↔ _
    rw [isDone_complete, @eq_comm _ node n]
    simp [Change.completes, Change.restarts]
  | completeAll =>
    show (g.nodes.foldl Evaluation.complete e).isDone n = true ↔ _
    rw [isDone_foldl_complete]
    simp [Change.completes, Change.restarts]
  | restart r =>
    show (e.restart r).2.isDone n = true ↔ _
    rw [isDone_restart]
    simp [Change.completes, Change.restarts]

theorem Change.not_leaveDone_nil {n : Node} : ¬LeaveDone g [] n := by
  rintro ⟨before, last, after, he, -⟩
  simp at he

/-- The last change decides, unless it leaves the node alone. -/
theorem Change.leaveDone_concat {changes : List Change} {c : Change} {n : Node} :
    LeaveDone g (changes ++ [c]) n ↔
      n ∈ c.completes g ∨ n ∉ c.completes g ∧ n ∉ c.restarts ∧ LeaveDone g changes n := by
  constructor
  · rintro ⟨before, last, after, he, hlast, hafter⟩
    obtain rfl | ⟨after, c', rfl⟩ := List.eq_nil_or_concat' after
    · obtain ⟨rfl, hc⟩ := List.append_inj' he rfl
      cases hc
      exact Or.inl hlast
    · have he' : changes ++ [c] = (before ++ last :: after) ++ [c'] := by simpa using he
      obtain ⟨rfl, hc⟩ := List.append_inj' he' rfl
      cases hc
      obtain ⟨hcompletes, hrestarts⟩ := hafter c (by simp)
      have hleft : LeaveDone g (before ++ last :: after) n :=
        ⟨before, last, after, rfl, hlast, fun later hl => hafter later (List.mem_append_left _ hl)⟩
      exact Or.inr ⟨hcompletes, hrestarts, hleft⟩
  · rintro (hc | ⟨hcompletes, hrestarts, before, last, after, rfl, hlast, hafter⟩)
    · exact ⟨changes, c, [], rfl, hc, nofun⟩
    · refine ⟨before, last, after ++ [c], by simp, hlast, fun later hl => ?_⟩
      obtain hl | hl := List.mem_append.1 hl
      · exact hafter later hl
      · cases List.mem_singleton.1 hl
        exact ⟨hcompletes, hrestarts⟩

/-- **What is done** was completed, and not restarted after the last time. -/
theorem isDone_changeAll {changes : List Change} {n : Node} :
    (({} : Evaluation).changeAll g changes).isDone n = true ↔ Change.LeaveDone g changes n := by
  induction changes using List.reverseRecOn with
  | nil =>
    have hnone : ¬(({} : Evaluation).changeAll g []).isDone n = true := by simp [changeAll, isDone]
    exact iff_of_false hnone Change.not_leaveDone_nil
  | append_singleton changes c ih =>
    rw [changeAll_concat, isDone_change, Change.leaveDone_concat, ih]
    by_cases hc : n ∈ c.completes g
    · simp [hc]
    · simp [hc]

/-! ### The laws of a run -/

/-- **The evaluation of a graph after any changes.** As long as no node is completed so often that its counter
overflows: the generation of a node is the number of times that it was completed, where completing all nodes
completes each node of the graph once; a node is done if it was completed, and not restarted since the last
time; its value is the hash of its name and its generation; and no two completions, of whichever nodes, hash
the same bytes. So no two values are the same unless hashes collide. -/
theorem evaluation_of_changes (g : Graph) (changes : List Change)
    (hcount : ∀ n, (Change.completed g changes).count n < 2 ^ 64) :
    g.nodes.Nodup ∧
    (∀ n, ((({} : Evaluation).changeAll g changes).generation n).toNat =
      (Change.completed g changes).count n) ∧
    (∀ n, (({} : Evaluation).changeAll g changes).isDone n = true ↔ Change.LeaveDone g changes n) ∧
    (∀ n value, (({} : Evaluation).changeAll g changes).value? n = some value →
      value = Blake3.digest (textBytes n.text ++
        numberBytes ((({} : Evaluation).changeAll g changes).generation n))) ∧
    (({} : Evaluation).completions g changes).map Completion.node = Change.completed g changes ∧
    ((({} : Evaluation).completions g changes).map Completion.bytes).Nodup ∧
    (Blake3.Apart ((({} : Evaluation).completions g changes).map Completion.bytes) →
      ((({} : Evaluation).completions g changes).map Completion.value).Nodup) := by
  have hfresh : Fresh ([] ++ (({} : Evaluation).completions g changes).map Completion.stamp)
      (({} : Evaluation).changeAll g changes) := Fresh.empty.changeAll hcount
  rw [List.nil_append] at hfresh
  have hbytes : ((({} : Evaluation).completions g changes).map Completion.bytes).Nodup := by
    have hstamps := hfresh.nodup
    rw [List.nodup_iff_pairwise_ne, List.pairwise_map] at hstamps ⊢
    exact hstamps.imp fun hne he => hne (Completion.stamp_eq_of_bytes he)
  refine ⟨g.nodup_nodes, ?_, fun n => isDone_changeAll, fun n value hv => (hfresh.value hv).2,
    map_node_completions g {} changes, hbytes, ?_⟩
  · intro n
    rw [hfresh.generation, List.map_map, ← map_node_completions g {} changes]
    rfl
  · intro hapart
    have hvalues : (({} : Evaluation).completions g changes).map Completion.value =
        ((({} : Evaluation).completions g changes).map Completion.bytes).map Blake3.digest := by
      rw [List.map_map]
      rfl
    rw [hvalues]
    exact List.Nodup.map_on (fun x hx y hy he => hapart x hx y hy he) hbytes

/-- All nodes of a graph are completed, then an artifact and its maker are restarted, and the artifact is
completed again. -/
def remade : List Change :=
  [.completeAll, .restart ⟨.artifact "out/x", {.action ⟨"//p", 0⟩}⟩, .complete (.artifact "out/x")]

/-- The artifact has come to its second generation, and its maker is not done. -/
theorem evaluation_of_changes_remade :
    (∀ n, (Change.completed (.ofConfig Description.chain.accepted) remade).count n < 2 ^ 64) ∧
    ((({} : Evaluation).changeAll (.ofConfig Description.chain.accepted) remade).generation
      (.artifact "out/x")).toNat = 2 ∧
    (({} : Evaluation).changeAll (.ofConfig Description.chain.accepted) remade).isDone
      (.action ⟨"//p", 0⟩) = false ∧
    (({} : Evaluation).changeAll (.ofConfig Description.chain.accepted) remade).isDone
      (.artifact "out/x") = true ∧
    ((({} : Evaluation).completions (.ofConfig Description.chain.accepted) remade).map
      Completion.bytes).Nodup := by
  have hcount : ∀ n, (Change.completed (.ofConfig Description.chain.accepted) remade).count n <
    2 ^ 64 := fun n => lt_of_le_of_lt List.count_le_length (by decide +kernel)
  obtain ⟨-, hgeneration, hdone, -, -, hbytes, -⟩ :=
    evaluation_of_changes (.ofConfig Description.chain.accepted) remade hcount
  refine ⟨hcount, ?_, by decide +kernel, ?_, hbytes⟩
  · rw [hgeneration]
    decide +kernel
  · exact (hdone _).2 ⟨remade.take 2, .complete (.artifact "out/x"), [], rfl, List.mem_singleton_self _,
      nofun⟩

end Rewinding.Evaluation
