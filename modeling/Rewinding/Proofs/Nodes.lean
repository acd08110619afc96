import Rewinding.Proofs.LostPaths

/-!
# Which nodes a graph has

The nodes of a graph come from three tables: artifacts, actions, and what actions want restarted along with
themselves. `Graph.nodes` puts them together, and `Graph.contains` looks a node up in the one of the tables
that its kind belongs to. Both agree on artifacts and on nodes that are neither artifact nor action; but an
action that is only wanted along, and that nothing declares, is listed and not contained
(`mem_nodes_iff_contains`).
-/

namespace Rewinding

/-- The action is not declared, and yet some action wants it restarted along. -/
def Config.Undeclared (c : Config) (k : ActionKey) : Prop :=
  k ∉ c.actions ∧ ∃ (k' : ActionKey) (declared : ActionSection), c.actions[k']? = some declared ∧
    ∃ dep ∈ declared.rewindDeps, ActionKey.parse dep = .ok k

namespace Graph

variable {c : Config}

/-! ### What is wanted along -/

theorem mem_extraNodes_ofConfig {n : Node} : n ∈ (ofConfig c).extraNodes ↔
    ∃ (k : ActionKey) (declared : ActionSection), c.actions[k]? = some declared ∧
      n ∈ rewindDeps (ofConfig c).artifacts declared := by
  have hextra : (ofConfig c).extraNodes = Std.ExtTreeSet.ofList (c.actions.toList.flatMap
    fun entry => rewindDeps (ofConfig c).artifacts entry.2) := rfl
  rw [hextra, Std.ExtTreeSet.mem_ofList, List.contains_iff_mem, List.mem_flatMap]
  constructor
  · rintro ⟨⟨k, declared⟩, ht, hn⟩
    exact ⟨k, declared, Std.ExtTreeMap.mem_toList_iff_getElem?_eq_some.1 ht, hn⟩
  · rintro ⟨k, declared, ht, hn⟩
    exact ⟨(k, declared), Std.ExtTreeMap.mem_toList_iff_getElem?_eq_some.2 ht, hn⟩

theorem mem_artifacts_of_extraNodes {path : String} (h : .artifact path ∈ (ofConfig c).extraNodes) :
    path ∈ (ofConfig c).artifacts := by
  obtain ⟨_, declared, -, hn⟩ := mem_extraNodes_ofConfig.1 h
  obtain ⟨dep, -, ⟨k, -, he⟩ | ⟨-, ⟨hp, he⟩ | ⟨-, he⟩⟩⟩ := mem_rewindDeps.1 hn
  · cases he
  · cases he
    exact hp
  · cases he

theorem action_mem_extraNodes {k : ActionKey} : .action k ∈ (ofConfig c).extraNodes ↔
    ∃ (k' : ActionKey) (declared : ActionSection), c.actions[k']? = some declared ∧
      ∃ dep ∈ declared.rewindDeps, ActionKey.parse dep = .ok k := by
  rw [mem_extraNodes_ofConfig]
  simp [mem_rewindDeps]

/-! ### Listed and contained -/

/-- The three kinds of nodes are looked up in three tables; only for actions the third table adds some. -/
theorem mem_nodes_ofConfig {n : Node} : n ∈ (ofConfig c).nodes ↔
    (ofConfig c).contains n = true ∨ ∃ k, n = .action k ∧ c.Undeclared k := by
  rw [mem_nodes]
  cases n with
  | artifact path =>
    simp only [contains, Node.artifact.injEq, exists_eq_right', reduceCtorEq, and_false, exists_false,
      false_and, or_false, false_or, decide_eq_true_eq]
    exact ⟨fun h => h.elim id mem_artifacts_of_extraNodes, Or.inl⟩
  | action k =>
    simp only [contains, Node.action.injEq, exists_eq_right', exists_eq_left', reduceCtorEq, and_false,
      exists_false, false_or, decide_eq_true_eq, action_mem_extraNodes, Config.Undeclared,
      mem_actions_ofConfig]
    by_cases hk : k ∈ c.actions
    · simp [hk]
    · simp [hk]
  | other name => simp [contains]

/-- **The nodes of a graph.** A node is listed exactly if the graph contains it or it is an action that is not
declared and that some action wants restarted along. The list is in ascending order, so that no node is in it
twice; and after all nodes have been completed, the nodes of the list are done and no others. -/
theorem mem_nodes_iff_contains (c : Config) :
    (∀ n, n ∈ (ofConfig c).nodes ↔
      (ofConfig c).contains n = true ∨ ∃ k, n = .action k ∧ c.Undeclared k) ∧
    (ofConfig c).nodes.Pairwise (fun n n' => compare n n' = .lt) ∧
    ∀ n, (({} : Evaluation).completeAll (.ofConfig c)).isDone n = true ↔
      (ofConfig c).contains n = true ∨ ∃ k, n = .action k ∧ c.Undeclared k := by
  refine ⟨fun n => mem_nodes_ofConfig, Std.ExtTreeSet.ordered_toList, fun n => ?_⟩
  have hblank : ¬({} : Evaluation).isDone n = true := by simp [Evaluation.isDone]
  unfold Evaluation.completeAll
  rw [Evaluation.isDone_foldl_complete, or_iff_left hblank]
  exact mem_nodes_ofConfig

end Graph

/-- One action wants another one restarted along that is not declared. -/
def Description.undeclaring : Description where
  actions := Std.ExtTreeMap.ofList
    [("//f#0", ({ outputs := ["out/f"], rewindDeps := ["//x#0"] } : ActionSection))]

/-- **A node that is listed and not contained.** The description is accepted, and the action that it does not
declare is a node of the graph, which is completed along with all nodes. -/
theorem Graph.listed_not_contained : ∃ c, Description.undeclaring.validate = .ok c ∧
    .action ⟨"//x", 0⟩ ∈ (ofConfig c).nodes ∧ (ofConfig c).contains (.action ⟨"//x", 0⟩) = false ∧
    (({} : Evaluation).completeAll (.ofConfig c)).isDone (.action ⟨"//x", 0⟩) = true :=
  ⟨_, Description.validate_eq_accepted (by decide +kernel), by decide +kernel, by decide +kernel,
    by decide +kernel⟩

end Rewinding
