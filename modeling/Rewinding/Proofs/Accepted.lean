import Mathlib.Logic.Relation
import Rewinding.Config.Validate
import Rewinding.Proofs.Precedence

/-!
# What an accepted description guarantees

`Config.Accepted` is what the checks establish for everything after them: only actions of the table
make something, and no action is before itself. Each check is opened once, for its part of that.
-/

namespace Rewinding

/-- What holds at the start and is kept by every step that succeeds holds at the end. -/
theorem foldlM_invariant {α β ε : Type} {f : β → α → Except ε β} {l : List α} (P : β → Prop)
    (hf : ∀ b, ∀ a ∈ l, ∀ b', P b → f b a = .ok b' → P b') {b r : β} (hb : P b)
    (h : l.foldlM f b = .ok r) : P r := by
  induction l generalizing b with
  | nil =>
    obtain rfl := Except.ok.inj h
    exact hb
  | cons a l ih =>
    rw [List.foldlM_cons] at h
    cases ha : f b a with
    | error e =>
      rw [ha] at h
      cases h
    | ok b' =>
      rw [ha] at h
      have hl := fun b₁ c (hc : c ∈ l) => hf b₁ c (List.mem_cons_of_mem _ hc)
      exact ih hl (hf b a List.mem_cons_self b' hb ha) h

namespace Config

/-- An action that makes an input of another one comes before that one. -/
def Precedes (c : Config) (k k' : ActionKey) : Prop :=
  ∃ declared path, c.actions[k']? = some declared ∧ path ∈ declared.inputs ∧
    k ∈ makersOf c.makers c.expansions path

/-- What is known of a checked description. -/
structure Accepted (c : Config) : Prop where
  /-- An action makes what it lists as its output. -/
  makers {path : String} {k : ActionKey} : c.makers[path]? = some k →
    ∃ declared, c.actions[k]? = some declared ∧ path ∈ declared.outputs
  /-- Templates are declared, and expand to actions. -/
  expansions {path : String} {keys : Std.ExtTreeSet ActionKey} : c.expansions[path]? = some keys →
    path ∈ c.artifacts ∧ ∀ k ∈ keys, k ∈ c.actions
  /-- No action is before itself. -/
  acyclic (k : ActionKey) : ¬Relation.TransGen c.Precedes k k

/-! ### Check by check -/

theorem mem_outputs {table : Std.ExtTreeMap ActionKey ActionSection} {k : ActionKey}
    {declared : ActionSection} {path : String} :
    (k, declared, path) ∈ outputs table ↔ table[k]? = some declared ∧ path ∈ declared.outputs := by
  unfold outputs
  rw [List.mem_flatMap]
  constructor
  · rintro ⟨⟨k', declared'⟩, ht, hp⟩
    obtain ⟨path', hp, he⟩ := List.mem_map.1 hp
    cases he
    exact ⟨Std.ExtTreeMap.mem_toList_iff_getElem?_eq_some.1 ht, hp⟩
  · rintro ⟨ht, hp⟩
    exact ⟨(k, declared), Std.ExtTreeMap.mem_toList_iff_getElem?_eq_some.2 ht,
      List.mem_map_of_mem hp⟩

theorem makers_of_readMakers {artifacts : Std.ExtTreeMap String ArtifactSection}
    {table : Std.ExtTreeMap ActionKey ActionSection} {makers : Std.ExtTreeMap String ActionKey}
    (h : readMakers artifacts table = .ok makers) {path : String} {k : ActionKey}
    (hk : makers[path]? = some k) :
    ∃ declared : ActionSection, table[k]? = some declared ∧ path ∈ declared.outputs := by
  refine foldlM_invariant (fun makers => ∀ path k, makers[path]? = some k →
    ∃ declared : ActionSection, table[k]? = some declared ∧ path ∈ declared.outputs) ?_ ?_ h path k hk
  · rintro made ⟨key, declared, output⟩ ho made' hmade hadd path k hk
    unfold addOutput at hadd
    simp only at hadd
    split at hadd
    · cases hadd
    split at hadd
    · cases hadd
    split at hadd
    · cases hadd
    obtain rfl := Except.ok.inj hadd
    rw [Std.ExtTreeMap.getElem?_insert] at hk
    split at hk
    case isTrue he =>
      cases hk
      obtain rfl := Std.LawfulEqCmp.compare_eq_iff_eq.1 he
      exact ⟨declared, mem_outputs.1 ho⟩
    case isFalse => exact hmade path k hk
  · intro path k hk
    simp at hk

theorem mem_of_foldlM_addExpanded {table : Std.ExtTreeMap ActionKey ActionSection} {path : String}
    {names : List String} {keys : Std.ExtTreeSet ActionKey}
    (h : names.foldlM (addExpanded table path) ∅ = .ok keys) {k : ActionKey} (hk : k ∈ keys) :
    k ∈ table := by
  refine foldlM_invariant (fun keys => ∀ k ∈ keys, k ∈ table) ?_ ?_ h k hk
  · intro keys name _ keys' hkeys hadd k hk
    unfold addExpanded at hadd
    split at hadd
    · cases hadd
    split at hadd
    case isFalse => cases hadd
    case isTrue ht =>
      obtain rfl := Except.ok.inj hadd
      obtain he | hk := Std.ExtTreeSet.mem_insert.1 hk
      · exact Std.LawfulEqCmp.compare_eq_iff_eq.1 he ▸ ht
      · exact hkeys k hk
  · intro k hk
    simp at hk

theorem expansions_of_readExpansions {artifacts : Std.ExtTreeMap String ArtifactSection}
    {table : Std.ExtTreeMap ActionKey ActionSection} {makers : Std.ExtTreeMap String ActionKey}
    {expansions : Expansions} (h : readExpansions artifacts table makers = .ok expansions)
    {path : String} {keys : Std.ExtTreeSet ActionKey} (hk : expansions[path]? = some keys) :
    path ∈ artifacts ∧ ∀ k ∈ keys, k ∈ table := by
  refine foldlM_invariant (fun expansions => ∀ path keys, expansions[path]? = some keys →
    path ∈ artifacts ∧ ∀ k ∈ keys, k ∈ table) ?_ ?_ h path keys hk
  · rintro read ⟨tree, declared⟩ ht read' hread hadd path keys hk
    unfold addExpansion at hadd
    simp only at hadd
    split at hadd
    · obtain rfl := Except.ok.inj hadd
      exact hread path keys hk
    split at hadd
    · cases hadd
    split at hadd
    · cases hadd
    split at hadd
    case h_2 => cases hadd
    case h_1 found hfound =>
      obtain rfl := Except.ok.inj hadd
      rw [Std.ExtTreeMap.getElem?_insert] at hk
      split at hk
      case isTrue he =>
        cases hk
        obtain rfl := Std.LawfulEqCmp.compare_eq_iff_eq.1 he
        have hdeclared := Std.ExtTreeMap.mem_toList_iff_getElem?_eq_some.1 ht
        exact ⟨Std.ExtTreeMap.mem_iff_isSome_getElem?.2 (hdeclared ▸ rfl),
          fun _ => mem_of_foldlM_addExpanded hfound⟩
      case isFalse => exact hread path keys hk
  · intro path keys hk
    simp at hk

section Cycles

variable {table : Std.ExtTreeMap ActionKey ActionSection} {makers : Std.ExtTreeMap String ActionKey}
  {expansions : Expansions} {k k' : ActionKey}

theorem mem_feeds : (k, k') ∈ feeds table makers expansions ↔
    ∃ (declared : ActionSection) (path : String), table[k']? = some declared ∧
      path ∈ declared.inputs ∧ k ∈ makersOf makers expansions path := by
  unfold feeds
  rw [List.mem_eraseDups, List.mem_flatMap]
  constructor
  · rintro ⟨⟨key, declared⟩, ht, he⟩
    obtain ⟨path, hpath, he⟩ := List.mem_flatMap.1 he
    obtain ⟨p, hp, he⟩ := List.mem_map.1 he
    cases he
    exact ⟨declared, path, Std.ExtTreeMap.mem_toList_iff_getElem?_eq_some.1 ht, hpath, hp⟩
  · rintro ⟨declared, path, ht, hpath, hp⟩
    exact ⟨(k', declared), Std.ExtTreeMap.mem_toList_iff_getElem?_eq_some.2 ht,
      List.mem_flatMap.2 ⟨path, hpath, List.mem_map.2 ⟨k, hp, rfl⟩⟩⟩

/-- Both ends of an edge are nodes. -/
theorem mem_nodes_precedence (h : (precedence table makers expansions).Precedes k k') :
    k ∈ (precedence table makers expansions).nodes ∧
      k' ∈ (precedence table makers expansions).nodes := by
  obtain ⟨declared, -, ht, -⟩ := mem_feeds.1 h
  have hk' : k' ∈ table := Std.ExtTreeMap.mem_iff_isSome_getElem?.2 (ht ▸ rfl)
  simp only [precedence, List.mem_eraseDups, List.mem_append]
  constructor
  · exact Or.inr (List.mem_map_of_mem h)
  · exact Or.inl (Std.ExtTreeMap.mem_keys.2 hk')

end Cycles

theorem precedes_precedence {c : Config} {k k' : ActionKey} :
    (precedence c.actions c.makers c.expansions).Precedes k k' ↔ c.Precedes k k' :=
  mem_feeds

theorem acyclic_of_checkCycles {c : Config} (h : checkCycles c.actions c.makers c.expansions = .ok ())
    (k : ActionKey) : ¬Relation.TransGen c.Precedes k k := by
  unfold checkCycles at h
  split at h
  case h_1 => cases h
  case h_2 hnone =>
    intro hk
    have hk' := Relation.TransGen.mono (fun _ _ hp => precedes_precedence.2 hp) _ _ hk
    exact Precedence.not_transGen_of_culprit?_eq_none (fun _ _ hp => (mem_nodes_precedence hp).2)
      hnone k hk'

end Config

namespace Description

/-- A description is accepted when all checks succeed, each on what the ones before it read. -/
theorem checks_of_validate {d : Description} {c : Config} (h : d.validate = .ok c) :
    c.settings = d.settings ∧ c.artifacts = d.artifacts ∧
    Config.readActions d.actions.toList = .ok c.actions ∧
    Config.readMakers c.artifacts c.actions = .ok c.makers ∧
    Config.readExpansions c.artifacts c.actions c.makers = .ok c.expansions ∧
    (∃ membership, Config.checkArtifacts c.artifacts c.makers c.expansions = .ok membership) ∧
    Config.checkCycles c.actions c.makers c.expansions = .ok () := by
  unfold validate at h
  simp only [bind, Except.bind, pure, Except.pure, throw, throwThe, MonadExceptOf.throw] at h
  split at h
  · cases h
  split at h
  · cases h
  split at h
  · cases h
  case h_2 actions hactions =>
  split at h
  · cases h
  case h_2 makers hmakers =>
  split at h
  · cases h
  case h_2 expansions hexpansions =>
  split at h
  · cases h
  case h_2 membership hmembership =>
  split at h
  · cases h
  case h_2 hcycles =>
  obtain rfl := Except.ok.inj h
  exact ⟨rfl, rfl, hactions, hmakers, hexpansions, ⟨membership, hmembership⟩, hcycles⟩

theorem accepted_of_validate {d : Description} {c : Config} (h : d.validate = .ok c) :
    c.Accepted := by
  obtain ⟨-, -, -, hmakers, hexpansions, -, hcycles⟩ := checks_of_validate h
  exact ⟨Config.makers_of_readMakers hmakers, Config.expansions_of_readExpansions hexpansions,
    Config.acyclic_of_checkCycles hcycles⟩

end Description

end Rewinding
