import Rewinding.Evaluation
import Rewinding.Proofs.Accepted
import Rewinding.Proofs.Walk

/-!
# The graph of an accepted description

`Graph.ofConfig` builds its tables by folding over lists of paths and sections. What the tables hold
is said here entry by entry, in terms of the description: which action is found under a key, and
what an artifact is known to depend on while all that makes it is done.
-/

namespace Rewinding

/-- A table that was listed path by path, where a path is listed once. -/
theorem getElem?_ofList_filterMap {α : Type} {paths : List String} (hd : paths.Nodup)
    (f : String → Option α) (path : String) :
    (Std.ExtTreeMap.ofList (paths.filterMap fun p => (f p).map fun v => (p, v)))[path]? =
      if path ∈ paths then f path else none := by
  have hkeys : (paths.filterMap fun p => (f p).map fun v => (p, v)).Pairwise
      fun x y => ¬compare x.1 y.1 = .eq := by
    refine List.Pairwise.filterMap _ ?_ hd
    rintro p p' hne x hx y hy
    obtain ⟨v, -, rfl⟩ := Option.map_eq_some_iff.1 hx
    obtain ⟨w, -, rfl⟩ := Option.map_eq_some_iff.1 hy
    exact fun he => hne (Std.LawfulEqCmp.compare_eq_iff_eq.1 he)
  -- the entries for other paths have other keys
  cases hv : (if path ∈ paths then f path else none) with
  | some v =>
    split at hv
    case isFalse => cases hv
    case isTrue hp =>
      refine Std.ExtTreeMap.getElem?_ofList_of_mem Std.ReflCmp.compare_self hkeys ?_
      exact List.mem_filterMap.2 ⟨path, hp, by rw [hv]; rfl⟩
  | none =>
    refine Std.ExtTreeMap.getElem?_ofList_of_contains_eq_false ?_
    rw [← Bool.not_eq_true, List.contains_iff_mem]
    intro hm
    obtain ⟨x, hx, rfl⟩ := List.mem_map.1 hm
    obtain ⟨p, hp, hx⟩ := List.mem_filterMap.1 hx
    obtain ⟨v, hf, rfl⟩ := Option.map_eq_some_iff.1 hx
    rw [if_pos hp, hf] at hv
    cases hv

namespace Config

variable {c : Config}

/-- The actions that make the artifact at `path`. -/
def makersAt (c : Config) (path : String) : List ActionKey :=
  ((c.producersOf path).map Producers.keys).getD []

theorem mem_makersAt {path : String} {k : ActionKey} :
    k ∈ c.makersAt path ↔ ∃ producers, c.producersOf path = some producers ∧ k ∈ producers.keys := by
  unfold makersAt
  cases c.producersOf path with
  | none => simp
  | some producers => simp

theorem mem_makersOf_of_mem_makersAt {path : String} {k : ActionKey} (h : k ∈ c.makersAt path) :
    k ∈ makersOf c.makers c.expansions path := by
  obtain ⟨producers, hp, hk⟩ := mem_makersAt.1 h
  unfold producersOf producerOf at hp
  unfold makersOf
  rw [List.mem_append]
  split at hp
  case h_1 key hm =>
    obtain rfl := Option.some.inj hp
    rw [hm]
    exact Or.inl hk
  case h_2 hm =>
    obtain ⟨keys, he, rfl⟩ := Option.map_eq_some_iff.1 hp
    refine Or.inr ?_
    unfold expansionOf at he
    rw [he]
    exact hk

theorem nodup_paths (c : Config) : c.paths.Nodup := by
  refine Std.ExtTreeSet.distinct_toList.imp fun h he => h ?_
  rw [he]
  exact Std.ReflCmp.compare_self

theorem mem_paths {path : String} : path ∈ c.paths ↔ path ∈ c.artifacts ∨
    ∃ (k : ActionKey) (declared : ActionSection), c.actions[k]? = some declared ∧
      (path ∈ declared.inputs ∨ path ∈ declared.outputs) := by
  unfold paths
  rw [Std.ExtTreeSet.mem_toList, Std.ExtTreeSet.mem_ofList, List.contains_iff_mem, List.mem_append,
    Std.ExtTreeMap.mem_keys, List.mem_flatMap]
  apply or_congr_right
  constructor
  · rintro ⟨⟨k, declared⟩, ht, hp⟩
    exact ⟨k, declared, Std.ExtTreeMap.mem_toList_iff_getElem?_eq_some.1 ht, List.mem_append.1 hp⟩
  · rintro ⟨k, declared, ht, hp⟩
    exact ⟨(k, declared), Std.ExtTreeMap.mem_toList_iff_getElem?_eq_some.2 ht, List.mem_append.2 hp⟩

namespace Accepted

variable (hc : c.Accepted)
include hc

/-- Only actions make something. -/
theorem mem_actions_of_mem_makersAt {path : String} {k : ActionKey} (h : k ∈ c.makersAt path) :
    k ∈ c.actions := by
  have hk := mem_makersOf_of_mem_makersAt h
  unfold makersOf at hk
  rw [List.mem_append] at hk
  obtain hk | hk := hk
  · obtain ⟨declared, ht, -⟩ := hc.makers (Option.mem_toList.1 hk)
    exact Std.ExtTreeMap.mem_iff_isSome_getElem?.2 (ht ▸ rfl)
  · cases he : c.expansions[path]? with
    | none =>
      rw [he] at hk
      cases hk
    | some keys =>
      rw [he] at hk
      exact (hc.expansions he).2 k (Std.ExtTreeSet.mem_toList.1 hk)

/-- What is made by something is a path of the description. -/
theorem mem_paths_of_producersOf {path : String} {producers : Producers}
    (h : c.producersOf path = some producers) : path ∈ c.paths := by
  rw [mem_paths]
  unfold producersOf producerOf at h
  split at h
  case h_1 key hm =>
    obtain ⟨declared, ht, hp⟩ := hc.makers hm
    exact Or.inr ⟨key, declared, ht, Or.inr hp⟩
  case h_2 =>
    obtain ⟨keys, he, -⟩ := Option.map_eq_some_iff.1 h
    exact Or.inl (hc.expansions he).1

end Accepted

end Config

namespace Graph

variable {c : Config}

theorem getElem?_actions_ofConfig (k : ActionKey) : (ofConfig c).actions[k]? =
    c.actions[k]?.map (actionOf c (ofConfig c).artifacts k) :=
  Std.ExtTreeMap.getElem?_map

theorem exists_of_getElem?_actions {k : ActionKey} {action : Action}
    (h : (ofConfig c).actions[k]? = some action) :
    ∃ declared, c.actions[k]? = some declared ∧
      action = actionOf c (ofConfig c).artifacts k declared := by
  rw [getElem?_actions_ofConfig] at h
  obtain ⟨declared, ht, rfl⟩ := Option.map_eq_some_iff.1 h
  exact ⟨declared, ht, rfl⟩

theorem mem_actions_ofConfig {k : ActionKey} : k ∈ (ofConfig c).actions ↔ k ∈ c.actions :=
  Std.ExtTreeMap.mem_map

theorem mem_derivedInputs_actionOf {artifacts : Std.ExtTreeMap String Artifact} {k : ActionKey}
    {declared : ActionSection} {a : Artifact} :
    a ∈ (actionOf c artifacts k declared).derivedInputs ↔
      ∃ path ∈ declared.inputs, (c.artifactFor path).isSource = false ∧ c.artifactFor path = a := by
  unfold Action.derivedInputs actionOf
  rw [List.mem_filter, List.mem_map]
  constructor
  · rintro ⟨⟨path, hp, rfl⟩, hs⟩
    exact ⟨path, hp, by simpa using hs, rfl⟩
  · rintro ⟨path, hp, hs, rfl⟩
    exact ⟨⟨path, hp, rfl⟩, by simp [hs]⟩

theorem wanted_actionOf (c : Config) (artifacts : Std.ExtTreeMap String Artifact) (k : ActionKey)
    (declared : ActionSection) :
    (actionOf c artifacts k declared).wanted = rewindDeps artifacts declared := by
  unfold Action.wanted actionOf
  simp only
  split
  case isTrue he => exact (List.isEmpty_iff.1 he).symm
  case isFalse => rfl

/-- What is wanted along as an artifact is one of the graph, and nothing else is named like one. -/
theorem mem_rewindDeps {artifacts : Std.ExtTreeMap String Artifact} {declared : ActionSection} {n : Node} :
    n ∈ rewindDeps artifacts declared ↔ ∃ dep ∈ declared.rewindDeps,
      (∃ k, ActionKey.parse dep = .ok k ∧ n = .action k) ∨
      (∃ malformed, ActionKey.parse dep = .error malformed) ∧
        (dep ∈ artifacts ∧ n = .artifact dep ∨ dep ∉ artifacts ∧ n = .other dep) := by
  unfold rewindDeps ActionSection.depNodes
  rw [List.map_map, List.mem_map]
  refine exists_congr fun dep => and_congr_right fun _ => ?_
  unfold Function.comp ActionSection.depNode
  cases ActionKey.parse dep with
  | ok k => simp [eq_comm]
  | error malformed => by_cases hd : dep ∈ artifacts <;> simp [hd, eq_comm]

/-- An action wants along those actions that its section names. -/
theorem action_mem_wanted_actionOf {artifacts : Std.ExtTreeMap String Artifact} {k k' : ActionKey}
    {declared : ActionSection} :
    Node.action k' ∈ (actionOf c artifacts k declared).wanted ↔ .action k' ∈ declared.depNodes := by
  rw [wanted_actionOf]
  unfold rewindDeps
  rw [List.mem_map]
  constructor
  · rintro ⟨n, hn, he⟩
    cases n with
    | action key =>
      cases he
      exact hn
    | artifact path => cases he
    | other name =>
      simp only at he
      split at he <;> cases he
  · intro hn
    exact ⟨_, hn, rfl⟩

theorem getElem?_producers_ofConfig (path : String) : (ofConfig c).producers[path]? =
    if path ∈ c.paths then c.producersOf path else none :=
  getElem?_ofList_filterMap c.nodup_paths c.producersOf path

theorem action_mem_nodes {k : ActionKey} (h : k ∈ c.actions) : .action k ∈ (ofConfig c).nodes := by
  unfold nodes
  rw [Std.ExtTreeSet.mem_toList, Std.ExtTreeSet.mem_ofList, List.contains_iff_mem]
  refine List.mem_append_left _ (List.mem_append_right _ ?_)
  exact List.mem_map_of_mem (Std.ExtTreeMap.mem_keys.2 (mem_actions_ofConfig.2 h))

end Graph

namespace Evaluation

variable {c : Config}

/-- What an artifact is known to depend on are its makers, and they are done. -/
theorem discover_eq_some {e : Evaluation} {a : Artifact} {producers : Producers}
    (h : e.discover (.ofConfig c) a = .ok (some producers)) :
    c.producersOf a.path = some producers ∧ ∀ k ∈ producers.keys, e.isDone (.action k) = true := by
  unfold discover at h
  rw [Graph.getElem?_producers_ofConfig] at h
  split at h
  case h_1 => cases h
  case h_2 found hfound =>
    have h := Except.ok.inj h
    split at h
    case isFalse => cases h
    case isTrue hd =>
      obtain rfl := Option.some.inj h
      split at hfound
      case isFalse => cases hfound
      case isTrue => exact ⟨hfound, List.all_eq_true.1 hd⟩

/-- While all makers are done, they are what an artifact is known to depend on. -/
theorem discover_of_isDone {e : Evaluation} (hc : c.Accepted) {a : Artifact} {producers : Producers}
    (hp : c.producersOf a.path = some producers)
    (hd : ∀ k ∈ producers.keys, e.isDone (.action k) = true) :
    e.discover (.ofConfig c) a = .ok (some producers) := by
  unfold discover
  rw [Graph.getElem?_producers_ofConfig, if_pos (hc.mem_paths_of_producersOf hp), hp]
  simp only
  rw [if_pos (List.all_eq_true.2 hd)]

end Evaluation

end Rewinding
