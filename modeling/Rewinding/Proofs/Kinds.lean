import Rewinding.Proofs.Sections
import Rewinding.Proofs.Sources

/-!
# What makes an artifact, and of what kind it is

The kind of an artifact is declared or follows from the outputs of actions; what makes it is looked up in
two other tables, that of outputs and that of templates. In an accepted description they agree:

* `isSource_artifactFor_iff`: the sources are what neither table knows;
* `expansionOf_eq_none`: no artifact is in both tables.

So the graph knows what an artifact depends on exactly if it is no source, and answers with it exactly
while all of that is done (`kinds_of_validate`).
-/

namespace Rewinding

namespace Config

/-- The action makes the artifact at `path`, by itself or because the template of that tree expanded to
it. -/
def Makes (c : Config) (path : String) (k : ActionKey) : Prop :=
  c.producerOf path = some k ∨ ∃ keys, c.expansionOf path = some keys ∧ k ∈ keys

end Config

namespace Description

variable {d : Description} {c : Config} {path : String} {k : ActionKey}

/-! ### The two tables -/

section Tables

variable (h : d.validate = .ok c)
include h

/-- What an action outputs is no template expansion. -/
theorem expansionOf_eq_none (hk : c.producerOf path = some k) : c.expansionOf path = none := by
  have ht := tables_of_validate h
  rw [Option.eq_none_iff_forall_ne_some]
  intro keys hkeys
  have hmem : path ∈ c.expansions := mem_iff_exists_getElem?.2 ⟨keys, hkeys⟩
  obtain ⟨declared, hd, hnames⟩ := ht.mem_expansions.1 hmem
  exact (valid_of_validate h).expanded_only hd hnames k (ht.getElem?_makers.1 hk)

/-- No template expands to nothing. -/
theorem expansion_ne_empty {keys : Std.ExtTreeSet ActionKey} (hkeys : c.expansionOf path = some keys) :
    keys ≠ ∅ := by
  have ht := tables_of_validate h
  obtain ⟨declared, hd, hnames, hread⟩ := Config.exists_of_readExpansions ht.expansions hkeys
  obtain ⟨name, hname⟩ := List.exists_mem_of_ne_nil _ hnames
  rw [ht.artifacts] at hd
  obtain ⟨k, -, hk, -⟩ := (valid_of_validate h).expanded_known hd name hname
  have hmem : k ∈ keys := (Config.mem_expanded_iff hread).2 ⟨name, hname, hk⟩
  rintro rfl
  exact Std.ExtTreeSet.not_mem_empty hmem

theorem producersOf_eq_some_iff {producers : Producers} : c.producersOf path = some producers ↔
    (∃ k, c.producerOf path = some k ∧ producers = .single k) ∨
      ∃ keys, c.expansionOf path = some keys ∧ producers = .expansion keys := by
  unfold Config.producersOf
  cases hk : c.producerOf path with
  | some k => simp [expansionOf_eq_none h hk, eq_comm]
  | none => simp [eq_comm]

theorem makes_iff : c.Makes path k ↔
    ∃ producers, c.producersOf path = some producers ∧ k ∈ producers.keys := by
  constructor
  · rintro (hk | ⟨keys, hkeys, hk⟩)
    · exact ⟨_, (producersOf_eq_some_iff h).2 (Or.inl ⟨k, hk, rfl⟩), List.mem_singleton_self k⟩
    · exact ⟨_, (producersOf_eq_some_iff h).2 (Or.inr ⟨keys, hkeys, rfl⟩),
        Std.ExtTreeSet.mem_toList.2 hk⟩
  · rintro ⟨producers, hp, hk⟩
    obtain ⟨k', hk', rfl⟩ | ⟨keys, hkeys, rfl⟩ := (producersOf_eq_some_iff h).1 hp
    · obtain rfl := List.mem_singleton.1 hk
      exact Or.inl hk'
    · exact Or.inr ⟨keys, hkeys, Std.ExtTreeSet.mem_toList.1 hk⟩

/-! ### Sources -/

/-- What is a source has neither a producer nor a template: a declared source may have neither, and what
is not declared and has no producer has no template either. -/
theorem producersOf_of_isSource (hs : (c.artifactFor path).isSource = true) :
    c.producersOf path = none := by
  have ht := tables_of_validate h
  have hvalid := valid_of_validate h
  unfold Config.artifactFor at hs
  rw [ht.artifacts] at hs
  rw [Option.eq_none_iff_forall_ne_some]
  intro producers hp
  obtain ⟨k, hk, -⟩ | ⟨keys, hkeys, -⟩ := (producersOf_eq_some_iff h).1 hp
  · cases hd : d.artifacts[path]? with
    | none => simp [hd, hk, Artifact.isSource] at hs
    | some declared =>
      rw [hd] at hs
      have hkind : declared.kind = .source := by simpa [Artifact.isSource] using hs
      exact hvalid.outputs_made (ht.getElem?_makers.1 hk) hd hkind
  · have hmem : path ∈ c.expansions := mem_iff_exists_getElem?.2 ⟨keys, hkeys⟩
    obtain ⟨declared, hd, hnames⟩ := ht.mem_expansions.1 hmem
    simp [hd, Artifact.isSource, hvalid.expanded_tree hd hnames] at hs

theorem isSource_artifactFor_iff :
    (c.artifactFor path).isSource = true ↔ c.producersOf path = none := by
  refine ⟨producersOf_of_isSource h, fun hnone => ?_⟩
  by_contra hs
  have hmade : c.Made (c.artifactFor path) :=
    ⟨by rw [c.path_artifactFor], by simpa using hs⟩
  obtain ⟨producers, hp⟩ := hmade.exists_producersOf h
  rw [c.path_artifactFor, hnone] at hp
  cases hp

end Tables

end Description

/-! ### What the graph answers -/

namespace Evaluation

variable {c : Config} {a : Artifact} (ha : a.path ∈ c.paths) (e : Evaluation)
include ha

/-- Nothing is known of an artifact of the graph if nothing makes it. -/
theorem discover_eq_error_iff {failure : Failure} : e.discover (.ofConfig c) a = .error failure ↔
    c.producersOf a.path = none ∧ failure = .unknownArtifact a.path := by
  unfold discover
  rw [Graph.getElem?_producers_ofConfig, if_pos ha]
  cases c.producersOf a.path with
  | none =>
    constructor
    · rintro ⟨⟩
      exact ⟨rfl, rfl⟩
    · rintro ⟨-, rfl⟩
      rfl
  | some producers => simp

theorem discover_eq_none_iff : e.discover (.ofConfig c) a = .ok none ↔
    ∃ producers, c.producersOf a.path = some producers ∧
      ∃ k ∈ producers.keys, e.isDone (.action k) = false := by
  unfold discover
  rw [Graph.getElem?_producers_ofConfig, if_pos ha]
  cases c.producersOf a.path <;> simp

/-- What makes an artifact of the graph is known while all of it is done. -/
theorem discover_eq_some_iff {producers : Producers} :
    e.discover (.ofConfig c) a = .ok (some producers) ↔
      c.producersOf a.path = some producers ∧ ∀ k ∈ producers.keys, e.isDone (.action k) = true := by
  unfold discover
  rw [Graph.getElem?_producers_ofConfig, if_pos ha]
  cases c.producersOf a.path with
  | none => simp
  | some found =>
    simp only [List.all_eq_true, Except.ok.injEq, Option.ite_none_right_eq_some, Option.some.injEq]
    grind

end Evaluation

namespace Description

variable {d : Description} {c : Config}

/-- **Kinds and producers agree.** Of any path, be it declared, read, output or none of these: it is a
source exactly if it has neither a producer nor a template, and never has it both. Its producer is the
action that outputs it, and a template expands to some actions, all of them of the description.

In the graph, whatever is done: nothing is known of an artifact exactly if it is a source; it is being
made again exactly if some action that makes it is not done; and otherwise it depends on its producer, or
on what its template expanded to. -/
theorem kinds_of_validate (h : d.validate = .ok c) :
    (∀ path,
      ((c.artifactFor path).isSource = true ↔
        c.producerOf path = none ∧ c.expansionOf path = none) ∧
      (c.producerOf path = none ∨ c.expansionOf path = none) ∧
      (∀ k, c.producerOf path = some k ↔ ∃ a, c.actions[k]? = some a ∧ path ∈ a.outputs) ∧
      (∀ k, c.producerOf path = some k → k ∈ c.actions) ∧
      ∀ keys, c.expansionOf path = some keys → keys ≠ ∅ ∧ ∀ k ∈ keys, k ∈ c.actions) ∧
    ∀ (e : Evaluation) (a : Artifact), (Graph.ofConfig c).Owns a →
      (∀ failure, e.discover (.ofConfig c) a = .error failure ↔
        a.isSource = true ∧ failure = .unknownArtifact a.path) ∧
      (e.discover (.ofConfig c) a = .ok none ↔
        ∃ k, c.Makes a.path k ∧ e.isDone (.action k) = false) ∧
      ∀ producers, e.discover (.ofConfig c) a = .ok (some producers) ↔
        ((∃ k, c.producerOf a.path = some k ∧ producers = .single k) ∨
          ∃ keys, c.expansionOf a.path = some keys ∧ producers = .expansion keys) ∧
        ∀ k, c.Makes a.path k → e.isDone (.action k) = true := by
  have hnone : ∀ path, c.producersOf path = none ↔
      c.producerOf path = none ∧ c.expansionOf path = none := by
    intro path
    simp only [Option.eq_none_iff_forall_ne_some, ne_eq, producersOf_eq_some_iff h]
    grind
  refine ⟨fun path => ⟨?_, ?_, fun k => producerOf_eq_some_iff h, ?_, ?_⟩, ?_⟩
  · rw [isSource_artifactFor_iff h, hnone]
  · cases hk : c.producerOf path with
    | none => exact Or.inl rfl
    | some k => exact Or.inr (expansionOf_eq_none h hk)
  · intro k hk
    obtain ⟨a, ha, -⟩ := (producerOf_eq_some_iff h).1 hk
    exact mem_iff_exists_getElem?.2 ⟨a, ha⟩
  · intro keys hkeys
    exact ⟨expansion_ne_empty h hkeys, ((accepted_of_validate h).expansions hkeys).2⟩
  · intro e a ha
    obtain ⟨hpath, hfor⟩ := Graph.owns_ofConfig.1 ha
    refine ⟨fun failure => ?_, ?_, fun producers => ?_⟩
    · rw [e.discover_eq_error_iff hpath, ← isSource_artifactFor_iff h, hfor]
    · rw [e.discover_eq_none_iff hpath]
      simp only [makes_iff h]
      grind
    · rw [e.discover_eq_some_iff hpath, ← producersOf_eq_some_iff h]
      simp only [makes_iff h]
      grind

/-- One of the two actions that make a tree is done, so the tree is being made again. What they read is a
source, or has a producer. -/
theorem kinds_of_validate_passing : passing.validate = .ok passing.accepted ∧
    (Graph.ofConfig passing.accepted).Owns ⟨"out/t", .tree⟩ ∧
    (({} : Evaluation).complete (.action ⟨"//q", 0⟩)).discover (.ofConfig passing.accepted)
      ⟨"out/t", .tree⟩ = .ok none ∧
    passing.accepted.producerOf "src/q" = none ∧ passing.accepted.expansionOf "src/q" = none ∧
    ∃ a, passing.accepted.actions[(⟨"//s", 0⟩ : ActionKey)]? = some a ∧ "out/s" ∈ a.outputs := by
  have hd : passing.validate = .ok passing.accepted := validate_eq_accepted (by decide +kernel)
  have howns : (Graph.ofConfig passing.accepted).Owns ⟨"out/t", .tree⟩ := by decide +kernel
  have hmakes : passing.accepted.Makes "out/t" ⟨"//q", 1⟩ :=
    Config.mem_makersOf.1 (by decide +kernel)
  obtain ⟨hpaths, hgraph⟩ := kinds_of_validate hd
  obtain ⟨-, hagain, -⟩ := hgraph (({} : Evaluation).complete (.action ⟨"//q", 0⟩)) _ howns
  obtain ⟨hsource, -⟩ := hpaths "src/q"
  obtain ⟨-, -, houtput, -⟩ := hpaths "out/s"
  obtain ⟨hproducer, htemplate⟩ := hsource.1 (by decide +kernel)
  exact ⟨hd, howns, hagain.2 ⟨_, hmakes, by decide +kernel⟩, hproducer, htemplate,
    (houtput _).1 (by decide +kernel)⟩

end Description

end Rewinding
