import Mathlib.Data.List.Dedup
import Mathlib.Data.List.Perm.Basic
import Rewinding.Proofs.Sources
import Rewinding.Proofs.Values

/-!
# The loss that a list of paths stands for

`Session.lossOf` looks each lost path up in the graph and puts it into the loss under the digest that
is expected of it. In a session in which every node has its first value no path is missing
(`lossOf_eq_ok`), and every path comes through to the inputs of the loss (`mem_inputs_of_lossOf`): two
paths would have to be lost under one digest for one of them to be dropped, and then hashes would
collide. So the inputs of the loss are the distinct paths, each once (`exists_loss_of_paths`).
-/

namespace Rewinding

open Evaluation

/-! ### First values -/

namespace Evaluation

/-- Completing nodes that were never complete before, each once, gives them their first values. -/
theorem value?_foldl_complete {nodes : List Node} (hd : nodes.Nodup) {e : Evaluation}
    (hg : ∀ n ∈ nodes, e.generation n = 0) (n : Node) :
    (nodes.foldl complete e).value? n = if n ∈ nodes then some (valueAt n 1) else e.value? n := by
  induction nodes generalizing e with
  | nil => rfl
  | cons node nodes ih =>
    rw [List.nodup_cons] at hd
    obtain ⟨hnot, hd⟩ := hd
    -- the nodes to come are others, and as fresh as before
    have hrest : ∀ n ∈ nodes, (e.complete node).generation n = 0 := by
      intro n hn
      have hne : node ≠ n := fun he => hnot (he ▸ hn)
      rw [generation_complete, if_neg hne]
      exact hg n (List.mem_cons_of_mem _ hn)
    have hzero : e.generation node = 0 := hg node List.mem_cons_self
    rw [List.foldl_cons, ih hd hrest, value?_complete, hzero]
    by_cases hn : n ∈ nodes
    · rw [if_pos hn, if_pos (List.mem_cons_of_mem _ hn)]
    · by_cases he : node = n
      · subst he
        rw [if_neg hn, if_pos rfl, if_pos List.mem_cons_self]
        rfl
      · rw [if_neg hn, if_neg he, if_neg]
        rintro hmem
        obtain rfl | hmem := List.mem_cons.1 hmem
        · exact he rfl
        · exact hn hmem

end Evaluation

namespace Graph

theorem nodup_nodes (g : Graph) : g.nodes.Nodup := by
  refine Std.ExtTreeSet.distinct_toList.imp fun h he => h ?_
  rw [he]
  exact Std.ReflCmp.compare_self

theorem mem_nodes {g : Graph} {n : Node} : n ∈ g.nodes ↔
    (∃ path ∈ g.artifacts, n = .artifact path) ∨ (∃ k ∈ g.actions, n = .action k) ∨
      n ∈ g.extraNodes := by
  unfold nodes
  rw [Std.ExtTreeSet.mem_toList, Std.ExtTreeSet.mem_ofList, List.contains_iff_mem, List.mem_append,
    List.mem_append, List.mem_map, List.mem_map, Std.ExtTreeSet.mem_toList, or_assoc]
  simp only [Std.ExtTreeMap.mem_keys, eq_comm]

theorem mem_artifacts_ofConfig {c : Config} {path : String} :
    path ∈ (ofConfig c).artifacts ↔ path ∈ c.paths := by
  rw [Std.ExtTreeMap.mem_iff_isSome_getElem?, getElem?_artifacts_ofConfig]
  split
  case isTrue hp => simp [hp]
  case isFalse hp => simp [hp]

end Graph

/-- Completing all nodes of a graph once gives each of them its first value. -/
theorem Evaluation.value?_completeAll (g : Graph) (n : Node) :
    (({} : Evaluation).completeAll g).value? n = if n ∈ g.nodes then some (valueAt n 1) else none := by
  unfold completeAll
  rw [value?_foldl_complete g.nodup_nodes]
  · simp [value?]
  · intro n _
    simp [generation]

/-! ### One entry for each path -/

/-- The digest and the input that a path is lost under while every node has its first value. -/
def Config.entryOf (c : Config) (path : String) : String × Input :=
  if path ∈ c.paths then (valueAt (.artifact path) 1, .artifact (c.artifactFor path))
  else (Blake3.digest (textBytes path), .virtual path)

theorem Config.path_entryOf (c : Config) (path : String) : (c.entryOf path).2.path = path := by
  unfold entryOf
  split
  · exact c.path_artifactFor path
  · rfl

/-- What is hashed when every node is completed once and some paths are lost: a string for each node
and for each lost path that names no artifact. -/
def Config.hashed (c : Config) (lost : List String) : List (List UInt8) :=
  ((Graph.ofConfig c).nodes.map fun n => valueBytes n 1) ++
    (lost.filter fun path => path ∉ c.paths).map textBytes

/-- No two of some strings collide. -/
def Blake3.Apart (hashed : List (List UInt8)) : Prop :=
  ∀ x ∈ hashed, ∀ y ∈ hashed, digest x = digest y → x = y

/-- Some strings may be hashed more than once. -/
theorem Blake3.apart_of_nodup {hashed strings : List (List UInt8)} (hsub : hashed ⊆ strings)
    (h : (strings.map digest).Nodup) : Apart hashed :=
  fun _ hx _ hy he => List.inj_on_of_nodup_map h (hsub hx) (hsub hy) he

section Entries

variable {c : Config} {lost : List String}

/-- Different paths are lost under different digests. -/
theorem Config.eq_of_entryOf (hapart : Blake3.Apart (c.hashed lost))
    (htext : ∀ path ∈ lost, '\x00' ∉ path.toList) {path path' : String} (hp : path ∈ lost)
    (hp' : path' ∈ lost) (h : (c.entryOf path).1 = (c.entryOf path').1) : path = path' := by
  have hnode : ∀ p, p ∈ c.paths → valueBytes (.artifact p) 1 ∈ c.hashed lost := by
    intro p hp
    refine List.mem_append_left _ (List.mem_map.2 ⟨.artifact p, Graph.mem_nodes.2 (Or.inl ?_), rfl⟩)
    exact ⟨p, Graph.mem_artifacts_ofConfig.2 hp, rfl⟩
  have hvirtual : ∀ p ∈ lost, p ∉ c.paths → textBytes p ∈ c.hashed lost := by
    intro p hp hnot
    refine List.mem_append_right _ (List.mem_map_of_mem (List.mem_filter.2 ⟨hp, ?_⟩))
    exact decide_eq_true hnot
  unfold entryOf at h
  by_cases hc : path ∈ c.paths <;> by_cases hc' : path' ∈ c.paths
  · rw [if_pos hc, if_pos hc'] at h
    exact (eq_of_valueBytes_artifact (hapart _ (hnode _ hc) _ (hnode _ hc') h)).1
  · rw [if_pos hc, if_neg hc'] at h
    have he := hapart _ (hnode _ hc) _ (hvirtual _ hp' hc') h
    exact absurd he.symm (textBytes_ne_valueBytes (htext _ hp') _)
  · rw [if_neg hc, if_pos hc'] at h
    have he := hapart _ (hvirtual _ hp hc) _ (hnode _ hc') h
    exact absurd he (textBytes_ne_valueBytes (htext _ hp) _)
  · rw [if_neg hc, if_neg hc'] at h
    exact textBytes_injective (hapart _ (hvirtual _ hp hc) _ (hvirtual _ hp' hc') h)

/-! ### The loss -/

theorem mem_foldl_insert {κ ν : Type} [Ord κ] [Std.TransOrd κ] [Std.LawfulEqOrd κ]
    {entries : List (κ × ν)} {m : Std.ExtTreeMap κ ν} {e : κ × ν} (he : e ∈ entries ∨ e.1 ∈ m) :
    e.1 ∈ entries.foldl (fun m e => m.insert e.1 e.2) m := by
  induction entries generalizing m with
  | nil =>
    obtain he | he := he
    · cases he
    · exact he
  | cons e' entries ih =>
    apply ih
    obtain he | he := he
    · obtain rfl | he := List.mem_cons.1 he
      · exact Or.inr Std.ExtTreeMap.mem_insert_self
      · exact Or.inl he
    · exact Or.inr (Std.ExtTreeMap.mem_insert.2 (Or.inr he))

/-- Where no two entries have one key, what is found are the entries. -/
theorem getElem?_foldl_insert_iff {κ ν : Type} [Ord κ] [Std.TransOrd κ] [Std.LawfulEqOrd κ]
    {entries : List (κ × ν)} (hkeys : ∀ e ∈ entries, ∀ e' ∈ entries, e.1 = e'.1 → e = e') {k : κ}
    {v : ν} : (entries.foldl (fun m e => m.insert e.1 e.2) (∅ : Std.ExtTreeMap κ ν))[k]? = some v ↔
      (k, v) ∈ entries := by
  constructor
  · intro h
    rcases mem_or_of_foldl_insert h with hin | hin
    · exact hin
    · simp at hin
  · intro he
    have hmem := mem_foldl_insert (m := (∅ : Std.ExtTreeMap κ ν)) (Or.inl he)
    obtain ⟨v', hv⟩ := mem_iff_exists_getElem?.1 hmem
    rcases mem_or_of_foldl_insert hv with hin | hin
    · rw [hv, show v' = v from congrArg Prod.snd (hkeys _ hin _ he rfl)]
    · simp at hin

/-- What is expected at a path: an artifact of the graph with its current value, or else a virtual
input with the hash of the path. -/
theorem Session.expected?_eq_some {s : Session} {path digest : String} {input : Input} :
    s.expected? path = some (digest, input) ↔
      (∃ a, s.graph.artifacts[path]? = some a ∧ input = .artifact a ∧
        s.build.evaluation.value? (.artifact path) = some digest) ∨
      path ∉ s.graph.artifacts ∧ input = .virtual path ∧ digest = Blake3.digest (textBytes path) := by
  rw [Std.ExtTreeMap.mem_iff_isSome_getElem?]
  unfold expected?
  cases s.graph.artifacts[path]? with
  | none => simp [eq_comm, and_comm]
  | some a => cases s.build.evaluation.value? (.artifact path) <;> simp [eq_comm, and_comm]

/-- The session is on the graph of `c`, and its artifacts have their first values. -/
structure Session.Primed (s : Session) (c : Config) : Prop where
  graph : s.graph = .ofConfig c
  value? {path : String} : path ∈ c.paths →
    s.build.evaluation.value? (.artifact path) = some (valueAt (.artifact path) 1)

theorem Session.primed_of_completeAll {s : Session} (hg : s.graph = .ofConfig c)
    (he : s.build.evaluation = ({} : Evaluation).completeAll (.ofConfig c)) : s.Primed c where
  graph := hg
  value? {path} hp := by
    have hmem : .artifact path ∈ (Graph.ofConfig c).nodes :=
      Graph.mem_nodes.2 (Or.inl ⟨path, Graph.mem_artifacts_ofConfig.2 hp, rfl⟩)
    rw [he, value?_completeAll, if_pos hmem]

namespace Session.Primed

variable {s : Session} (hs : s.Primed c)
include hs

theorem expected?_eq (path : String) : s.expected? path = some (c.entryOf path) := by
  unfold expected? Config.entryOf
  rw [hs.graph, Graph.getElem?_artifacts_ofConfig]
  by_cases hp : path ∈ c.paths
  · rw [if_pos hp, if_pos hp]
    simp only
    rw [hs.value? hp]
    rfl
  · rw [if_neg hp, if_neg hp]

theorem addLost_eq_ok (loss : Loss) (paths : List String) : s.addLost loss paths =
    .ok { loss with
      lost := (paths.map c.entryOf).foldl (fun lost e => lost.insert e.1 e.2) loss.lost } := by
  induction paths generalizing loss with
  | nil => rfl
  | cons path paths ih =>
    unfold addLost
    rw [hs.expected?_eq]
    exact ih _

/-- No lost path is missing a value. -/
theorem lossOf_eq_ok (message : String) (paths : List String) : s.lossOf message paths =
    .ok { message, owners := (Graph.ofConfig c).treeOwners,
          lost := (paths.map c.entryOf).foldl (fun lost e => lost.insert e.1 e.2) ∅ } := by
  unfold lossOf
  rw [hs.addLost_eq_ok, hs.graph]

/-- The loss of some paths holds the entry of each of them, and no others. -/
theorem getElem?_lost (hapart : Blake3.Apart (c.hashed lost))
    (htext : ∀ path ∈ lost, '\x00' ∉ path.toList) {message : String} {loss : Loss}
    (h : s.lossOf message lost = .ok loss) {digest : String} {input : Input} :
    loss.lost[digest]? = some input ↔ ∃ path ∈ lost, c.entryOf path = (digest, input) := by
  rw [hs.lossOf_eq_ok] at h
  obtain rfl := Except.ok.inj h
  -- different paths are lost under different digests, so no entry replaces another
  have hkeys : ∀ e ∈ lost.map c.entryOf, ∀ e' ∈ lost.map c.entryOf, e.1 = e'.1 → e = e' := by
    intro e he e' he' hkey
    obtain ⟨path, hp, rfl⟩ := List.mem_map.1 he
    obtain ⟨path', hp', rfl⟩ := List.mem_map.1 he'
    rw [Config.eq_of_entryOf hapart htext hp hp' hkey]
  simp only [getElem?_foldl_insert_iff hkeys, List.mem_map]

/-- The loss of some paths has their inputs and no others. -/
theorem mem_inputs_of_lossOf (hapart : Blake3.Apart (c.hashed lost))
    (htext : ∀ path ∈ lost, '\x00' ∉ path.toList) {message : String} {loss : Loss}
    (h : s.lossOf message lost = .ok loss) {input : Input} :
    input ∈ loss.inputs ↔ ∃ path ∈ lost, input = (c.entryOf path).2 := by
  unfold Loss.inputs
  simp only [List.mem_map, Prod.exists, exists_eq_right, Std.ExtTreeMap.mem_toList_iff_getElem?_eq_some,
    hs.getElem?_lost hapart htext h]
  constructor
  · rintro ⟨digest, path, hp, he⟩
    exact ⟨path, hp, by rw [he]⟩
  · rintro ⟨path, hp, rfl⟩
    exact ⟨(c.entryOf path).1, path, hp, rfl⟩

/-- No path is an input twice, however often it is lost. -/
theorem perm_dedup_of_lossOf (hapart : Blake3.Apart (c.hashed lost))
    (htext : ∀ path ∈ lost, '\x00' ∉ path.toList) {message : String} {loss : Loss}
    (h : s.lossOf message lost = .ok loss) : (loss.inputs.map Input.path).Perm lost.dedup := by
  -- the path of an entry tells the entry
  have hentry : ∀ e ∈ loss.lost.toList, e = c.entryOf e.2.path := by
    intro e he
    have hget := Std.ExtTreeMap.mem_toList_iff_getElem?_eq_some.1 he
    obtain ⟨path, -, hp⟩ := (hs.getElem?_lost hapart htext h).1 hget
    obtain rfl : c.entryOf path = e := hp
    rw [c.path_entryOf]
  have hnodup : loss.lost.toList.Nodup := by
    refine Std.ExtTreeMap.distinct_keys_toList.imp fun hne he => hne ?_
    rw [he]
    exact Std.ReflCmp.compare_self
  apply (List.perm_ext_iff_of_nodup ?_ lost.nodup_dedup).2
  · intro path
    rw [List.mem_dedup, List.mem_map]
    constructor
    · rintro ⟨input, hi, rfl⟩
      obtain ⟨path, hp, rfl⟩ := (hs.mem_inputs_of_lossOf hapart htext h).1 hi
      rwa [c.path_entryOf]
    · intro hp
      exact ⟨(c.entryOf path).2, (hs.mem_inputs_of_lossOf hapart htext h).2 ⟨path, hp, rfl⟩,
        c.path_entryOf path⟩
  · unfold Loss.inputs
    rw [List.map_map]
    apply hnodup.map_on
    intro e he e' he' hpath
    rw [hentry e he, hentry e' he']
    exact congrArg c.entryOf hpath

end Session.Primed

/-- **No lost path is dropped.** In a session in which all nodes of the graph have been completed once, a
loss can be made of any paths without null characters, as long as nothing that is hashed collides. Its
inputs are the distinct paths among them, each once: a path of the graph is lost as the artifact that the
graph has there, under its current value, and any other path as a virtual input, under its own hash. -/
theorem Session.exists_loss_of_paths {s : Session} (hg : s.graph = .ofConfig c)
    (he : s.build.evaluation = ({} : Evaluation).completeAll (.ofConfig c))
    (htext : ∀ path ∈ lost, '\x00' ∉ path.toList) (hapart : Blake3.Apart (c.hashed lost))
    (message : String) : ∃ loss, s.lossOf message lost = .ok loss ∧ loss.message = message ∧
      loss.owners = s.graph.treeOwners ∧ (loss.inputs.map Input.path).Perm lost.dedup ∧
      ∀ digest input, loss.lost[digest]? = some input ↔ ∃ path ∈ lost,
        (∃ a, s.graph.artifacts[path]? = some a ∧ input = .artifact a ∧
          s.build.evaluation.value? (.artifact path) = some digest) ∨
        path ∉ s.graph.artifacts ∧ input = .virtual path ∧
          digest = Blake3.digest (textBytes path) := by
  have hs := primed_of_completeAll hg he
  have hloss := hs.lossOf_eq_ok message lost
  refine ⟨_, hloss, rfl, by rw [hg], hs.perm_dedup_of_lossOf hapart htext hloss, ?_⟩
  intro digest input
  simp only [hs.getElem?_lost hapart htext hloss, ← expected?_eq_some, hs.expected?_eq,
    Option.some.injEq]

end Entries

/-- An action makes a tree with one member. -/
def Description.bundle : Description where
  artifacts := Std.ExtTreeMap.ofList [("t", ({ kind := .tree, members := ["t/m"] } : ArtifactSection))]
  actions := Std.ExtTreeMap.ofList [("//p#0", ({ outputs := ["t"] } : ActionSection))]

def Session.bundled : Session :=
  Session.completeAll
    { graph := .ofConfig Description.bundle.accepted, reporter := .log, maxRewinds := 1 }

/-- The member is lost twice, and the tree once. -/
theorem Session.exists_loss_of_paths_bundled :
    (∀ path ∈ ["t/m", "t", "t/m"], '\x00' ∉ path.toList) ∧
    Blake3.Apart (Description.bundle.accepted.hashed ["t/m", "t", "t/m"]) ∧
    ∃ loss, bundled.lossOf "lost" ["t/m", "t", "t/m"] = .ok loss ∧
      (loss.inputs.map Input.path).Perm ["t", "t/m"] := by
  have htext : ∀ path ∈ ["t/m", "t", "t/m"], '\x00' ∉ path.toList := by decide
  have hapart : Blake3.Apart (Description.bundle.accepted.hashed ["t/m", "t", "t/m"]) :=
    Blake3.apart_of_nodup (List.subset_dedup _) (by decide +kernel)
  obtain ⟨loss, hloss, -, -, hinputs, -⟩ := exists_loss_of_paths (s := bundled) rfl rfl htext hapart "lost"
  exact ⟨htext, hapart, loss, hloss, hinputs⟩

end Rewinding
