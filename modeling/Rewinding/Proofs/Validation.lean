import Rewinding.Proofs.Passes

/-!
# Which descriptions are accepted

`Description.Valid` states the rules for descriptions. The checks accept what the rules allow
(`exists_validate_iff_valid`): no fault is reported without a broken rule behind it, and no broken
rule slips through a pass that sees a part of the sections only.
-/

namespace Rewinding

/-! ### The rules -/

namespace Description

variable (d : Description)

/-- What is said of an action: its section or, where several names read as its key, the last one. -/
def section? (k : ActionKey) : Option ActionSection :=
  (d.actions.toList.filter fun named => (ActionKey.parse named.1).toOption = some k).getLast?.map
    Prod.snd

def Outputs (k : ActionKey) (path : String) : Prop :=
  ∃ a, d.section? k = some a ∧ path ∈ a.outputs

/-- The template of the tree at `path` expanded to the action. -/
def Expands (path : String) (k : ActionKey) : Prop :=
  ∃ declared, d.artifacts[path]? = some declared ∧
    ∃ name ∈ declared.expandedActions, ActionKey.parse name = .ok k

/-- One action makes, by itself or for a template, what another one reads. -/
def Precedes (k k' : ActionKey) : Prop :=
  ∃ a, d.section? k' = some a ∧ ∃ path ∈ a.inputs, d.Outputs k path ∨ d.Expands path k

/-- The rules for descriptions. -/
structure Valid : Prop where
  actions : d.actions ≠ ∅
  rewinds : 1 ≤ d.settings.maxRewinds
  keys {name : String} : name ∈ d.actions → ∃ k, ActionKey.parse name = .ok k
  /-- No source is made. -/
  outputs_made {k : ActionKey} {path : String} {declared : ArtifactSection} : d.Outputs k path →
    d.artifacts[path]? = some declared → declared.kind ≠ .source
  outputs_unread {k : ActionKey} {a : ActionSection} : d.section? k = some a →
    ∀ path ∈ a.outputs, path ∉ a.inputs
  /-- Nothing is output twice, by one action or by two. -/
  outputs_nodup {k : ActionKey} {a : ActionSection} : d.section? k = some a → a.outputs.Nodup
  outputs_unique {k k' : ActionKey} {path : String} : d.Outputs k path → d.Outputs k' path → k = k'
  /-- Templates are for trees that nothing else makes, and expand to actions. -/
  expanded_tree {path : String} {declared : ArtifactSection} : d.artifacts[path]? = some declared →
    declared.expandedActions ≠ [] → declared.kind = .tree
  expanded_only {path : String} {declared : ArtifactSection} : d.artifacts[path]? = some declared →
    declared.expandedActions ≠ [] → ∀ k, ¬d.Outputs k path
  expanded_known {path : String} {declared : ArtifactSection} : d.artifacts[path]? = some declared →
    ∀ name ∈ declared.expandedActions, ∃ k a, ActionKey.parse name = .ok k ∧ d.section? k = some a
  /-- Whatever is declared and is no source is made. -/
  produced {path : String} {declared : ArtifactSection} : d.artifacts[path]? = some declared →
    declared.kind ≠ .source → (∃ k, d.Outputs k path) ∨ declared.expandedActions ≠ []
  /-- Only collections have members, no collection has itself, and none two of the same kind. -/
  members_owned {path : String} {declared : ArtifactSection} : d.artifacts[path]? = some declared →
    declared.members ≠ [] → declared.kind = .tree ∨ declared.kind = .runfiles
  members_others {path : String} {declared : ArtifactSection} : d.artifacts[path]? = some declared →
    path ∉ declared.members
  members_nodup {path : String} {declared : ArtifactSection} : d.artifacts[path]? = some declared →
    declared.members.Nodup
  members_unique {path path' member : String} {declared declared' : ArtifactSection} :
    d.artifacts[path]? = some declared → d.artifacts[path']? = some declared' →
    declared.kind = declared'.kind → member ∈ declared.members → member ∈ declared'.members →
    path = path'
  acyclic (k : ActionKey) : ¬Relation.TransGen d.Precedes k k

end Description

/-! ### All passes -/

namespace Description

variable {d : Description} {c : Config}

theorem validate_eq_ok : d.validate = .ok c ↔
    d.actions ≠ ∅ ∧ d.settings.maxRewinds ≠ 0 ∧ c.settings = d.settings ∧ c.artifacts = d.artifacts ∧
    Config.readActions d.actions.toList = .ok c.actions ∧
    Config.readMakers c.artifacts c.actions = .ok c.makers ∧
    Config.readExpansions c.artifacts c.actions c.makers = .ok c.expansions ∧
    (∃ membership, Config.checkArtifacts c.artifacts c.makers c.expansions = .ok membership) ∧
    Config.checkCycles c.actions c.makers c.expansions = .ok () := by
  constructor
  · intro h
    have hchecks := checks_of_validate h
    unfold validate at h
    simp only [bind, Except.bind, pure, Except.pure, throw, throwThe, MonadExceptOf.throw] at h
    split at h
    · cases h
    case isFalse hactions =>
    split at h
    · cases h
    case isFalse hrewinds =>
    refine ⟨fun he => hactions ?_, hrewinds, hchecks⟩
    exact Std.ExtTreeMap.isEmpty_iff.2 he
  · rintro ⟨hactions, hrewinds, hs, ha, hread, hmakers, hexpansions, ⟨membership, hmembers⟩, hcycles⟩
    obtain ⟨settings, artifacts, actions, makers, expansions⟩ := c
    obtain rfl : settings = d.settings := hs
    obtain rfl : artifacts = d.artifacts := ha
    have hempty : ¬d.actions.isEmpty = true := fun he => hactions (Std.ExtTreeMap.isEmpty_iff.1 he)
    simp only [validate, hempty, hrewinds, hread, hmakers, hexpansions, hmembers, hcycles, bind,
      Except.bind, pure, Except.pure, if_false, Bool.false_eq_true]

/-- Of the sections of one key the last one is kept. -/
theorem getElem?_of_readActions {table : Std.ExtTreeMap ActionKey ActionSection}
    (h : Config.readActions d.actions.toList = .ok table) (k : ActionKey) :
    table[k]? = d.section? k := by
  rw [Config.getElem?_of_foldlM_addAction h, Std.ExtTreeMap.getElem?_empty, Option.or_none]
  rfl

/-- The tables of a configuration are those that its description reads as. -/
structure Tables (d : Description) (c : Config) : Prop where
  artifacts : c.artifacts = d.artifacts
  actions : Config.readActions d.actions.toList = .ok c.actions
  makers : Config.readMakers c.artifacts c.actions = .ok c.makers
  expansions : Config.readExpansions c.artifacts c.actions c.makers = .ok c.expansions

theorem tables_of_validate (h : d.validate = .ok c) : d.Tables c := by
  obtain ⟨-, -, -, hartifacts, hread, hmakers, hexpansions, -⟩ := validate_eq_ok.1 h
  exact ⟨hartifacts, hread, hmakers, hexpansions⟩

variable (ht : d.Tables c) {k k' : ActionKey} {path : String}
include ht

theorem Tables.getElem?_actions : c.actions[k]? = d.section? k :=
  getElem?_of_readActions ht.actions k

theorem Tables.getElem?_makers : c.makers[path]? = some k ↔ d.Outputs k path := by
  rw [Config.getElem?_of_readMakers ht.makers]
  simp only [ht.getElem?_actions, Outputs]

theorem Tables.mem_makers : path ∈ c.makers ↔ ∃ k, d.Outputs k path := by
  rw [mem_iff_exists_getElem?]
  simp only [ht.getElem?_makers]

theorem Tables.mem_expansions : path ∈ c.expansions ↔
    ∃ declared, d.artifacts[path]? = some declared ∧ declared.expandedActions ≠ [] := by
  rw [Config.mem_of_readExpansions ht.expansions, ht.artifacts]

theorem Tables.precedes_eq : c.Precedes = d.Precedes := by
  have hmakers : ∀ k path, k ∈ Config.makersOf c.makers c.expansions path ↔
      d.Outputs k path ∨ d.Expands path k := by
    intro k path
    rw [Config.mem_makersOf, ht.getElem?_makers, Config.exists_expanded_iff ht.expansions,
      ht.artifacts]
    rfl
  funext k k'
  unfold Config.Precedes Precedes
  simp only [hmakers, ht.getElem?_actions, exists_and_left]

omit ht

theorem maxRewinds_ne_zero_iff : d.settings.maxRewinds ≠ 0 ↔ 1 ≤ d.settings.maxRewinds := by
  rw [UInt32.le_iff_toNat_le, ← UInt32.toNat_inj.ne]
  show d.settings.maxRewinds.toNat ≠ 0 ↔ 1 ≤ d.settings.maxRewinds.toNat
  omega

theorem forall_mem_actions {P : String → Prop} :
    (∀ named ∈ d.actions.toList, P named.1) ↔ ∀ name ∈ d.actions, P name := by
  constructor
  · intro h name hname
    obtain ⟨a, ha⟩ := mem_iff_exists_getElem?.1 hname
    exact h (name, a) (Std.ExtTreeMap.mem_toList_iff_getElem?_eq_some.2 ha)
  · rintro h ⟨name, a⟩ hnamed
    have ha := Std.ExtTreeMap.mem_toList_iff_getElem?_eq_some.1 hnamed
    exact h name (mem_iff_exists_getElem?.2 ⟨_, ha⟩)

/-- What is accepted obeys the rules. -/
theorem valid_of_validate (h : d.validate = .ok c) : d.Valid := by
  obtain ⟨hactions, hrewinds, -, hartifacts, hread, hmakers, hexpansions, hmembers, hcycles⟩ :=
    validate_eq_ok.1 h
  have ht := tables_of_validate h
  have hkeys := Config.exists_readActions_iff.1 ⟨_, hread⟩
  obtain ⟨houtputs, hnodup, hdisjoint⟩ := Config.exists_readMakers_iff.1 ⟨_, hmakers⟩
  have hexpanded := Config.exists_readExpansions_iff.1 ⟨_, hexpansions⟩
  obtain ⟨hsound, hshared⟩ := Config.exists_checkArtifacts_iff.1 hmembers
  have hacyclic := Config.checkCycles_eq_ok.1 hcycles
  simp only [ht.getElem?_actions] at houtputs hnodup hdisjoint
  simp only [hartifacts] at houtputs hexpanded hsound hshared
  exact {
    actions := hactions
    rewinds := maxRewinds_ne_zero_iff.1 hrewinds
    keys := fun {name} hname => forall_mem_actions (P := fun name => ∃ k, ActionKey.parse name = .ok k)
      |>.1 hkeys name hname
    outputs_made := fun {k path declared} ⟨a, ha, hpath⟩ hd =>
      Config.declaredSource_eq_false.1 (houtputs k a ha path hpath).1 declared hd
    outputs_unread := fun {k a} ha path hpath => (houtputs k a ha path hpath).2
    outputs_nodup := hnodup _ _
    outputs_unique := fun {k k' path} ⟨a, ha, hpath⟩ ⟨a', ha', hpath'⟩ => by
      by_contra hne
      exact hdisjoint k k' a a' ha ha' hne hpath hpath'
    expanded_tree := fun {path declared} hd hnames => (hexpanded path declared hd hnames).1
    expanded_only := fun {path declared} hd hnames k hk =>
      (hexpanded path declared hd hnames).2.1 (ht.mem_makers.2 ⟨k, hk⟩)
    expanded_known := fun {path declared} hd name hname => by
      obtain ⟨k, hk, hmem⟩ := (hexpanded path declared hd (List.ne_nil_of_mem hname)).2.2 name hname
      obtain ⟨a, ha⟩ := mem_iff_exists_getElem?.1 hmem
      rw [ht.getElem?_actions] at ha
      exact ⟨k, a, hk, ha⟩
    produced := fun {path declared} hd hkind => by
      obtain hm | he := (hsound path declared hd).1 hkind
      · exact Or.inl (ht.mem_makers.1 hm)
      · obtain ⟨declared', hd', hnames⟩ := ht.mem_expansions.1 he
        cases hd.symm.trans hd'
        exact Or.inr hnames
    members_owned := fun {path declared} hd => (hsound path declared hd).2.1
    members_others := fun {path declared} hd => (hsound path declared hd).2.2.1
    members_nodup := fun {path declared} hd => (hsound path declared hd).2.2.2
    members_unique := fun {path path' member declared declared'} hd hd' hkind hm hm' => by
      by_contra hne
      exact hshared path path' declared declared' hd hd' hne hkind hm hm'
    acyclic := ht.precedes_eq ▸ hacyclic }

/-- What obeys the rules is accepted. -/
theorem exists_validate_of_valid (h : d.Valid) : ∃ c, d.validate = .ok c := by
  obtain ⟨table, hread⟩ := Config.exists_readActions_iff.2 (forall_mem_actions.2 fun _ => h.keys)
  have htable : ∀ k, table[k]? = d.section? k := getElem?_of_readActions hread
  have houtputs : ∃ makers, Config.readMakers d.artifacts table = .ok makers := by
    refine Config.exists_readMakers_iff.2 ?_
    simp only [htable]
    refine ⟨fun k a ha path hpath => ?_, fun k a => h.outputs_nodup, ?_⟩
    · refine ⟨Config.declaredSource_eq_false.2 fun declared => ?_, h.outputs_unread ha path hpath⟩
      exact h.outputs_made ⟨a, ha, hpath⟩
    · intro k k' a a' ha ha' hne path hpath hpath'
      exact hne (h.outputs_unique ⟨a, ha, hpath⟩ ⟨a', ha', hpath'⟩)
  obtain ⟨makers, hmakers⟩ := houtputs
  have hmade : ∀ path, path ∈ makers ↔ ∃ k, d.Outputs k path := by
    intro path
    rw [Config.mem_of_readMakers hmakers]
    simp only [htable, Outputs]
  have hexpanded : ∃ expansions, Config.readExpansions d.artifacts table makers = .ok expansions := by
    refine Config.exists_readExpansions_iff.2 fun path declared hd hnames => ?_
    refine ⟨h.expanded_tree hd hnames, fun hm => ?_, fun name hname => ?_⟩
    · obtain ⟨k, hk⟩ := (hmade path).1 hm
      exact h.expanded_only hd hnames k hk
    · obtain ⟨k, a, hk, ha⟩ := h.expanded_known hd name hname
      rw [← htable] at ha
      exact ⟨k, hk, mem_iff_exists_getElem?.2 ⟨a, ha⟩⟩
  obtain ⟨expansions, hexpansions⟩ := hexpanded
  have ht : d.Tables ⟨d.settings, d.artifacts, table, makers, expansions⟩ :=
    ⟨rfl, hread, hmakers, hexpansions⟩
  have hmembers : ∃ membership, Config.checkArtifacts d.artifacts makers expansions = .ok membership := by
    refine Config.exists_checkArtifacts_iff.2 ⟨fun path declared hd => ?_, ?_⟩
    · refine ⟨fun hkind => ?_, h.members_owned hd, h.members_others hd, h.members_nodup hd⟩
      obtain hm | hnames := h.produced hd hkind
      · exact Or.inl ((hmade path).2 hm)
      · exact Or.inr (ht.mem_expansions.2 ⟨declared, hd, hnames⟩)
    · intro path path' declared declared' hd hd' hne hkind member hm hm'
      exact hne (h.members_unique hd hd' hkind hm hm')
  have hacyclic : ∀ k, ¬Relation.TransGen
      (Config.Precedes ⟨d.settings, d.artifacts, table, makers, expansions⟩) k k :=
    ht.precedes_eq ▸ h.acyclic
  refine ⟨⟨d.settings, d.artifacts, table, makers, expansions⟩, validate_eq_ok.2 ?_⟩
  exact ⟨h.actions, maxRewinds_ne_zero_iff.2 h.rewinds, rfl, rfl, hread, hmakers, hexpansions,
    hmembers, Config.checkCycles_eq_ok.2 hacyclic⟩

/-- **The checks accept exactly the descriptions that obey the rules.** -/
theorem exists_validate_iff_valid : (∃ c, d.validate = .ok c) ↔ d.Valid := by
  constructor
  · rintro ⟨c, h⟩
    exact valid_of_validate h
  · exact exists_validate_of_valid

end Description

end Rewinding
