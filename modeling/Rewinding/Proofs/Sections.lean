import Mathlib.Data.Finset.Card
import Rewinding.Proofs.Upstream
import Rewinding.Proofs.Validation

/-!
# What becomes of the sections of actions

Sections of actions have texts for names, and a configuration has them under keys. Reading a key drops
blanks at the ends, a sign and zeros in front of the index, so several names may read as one key.

* `section?_eq_some_iff` says which section is kept then: the one with the last name.
* `size_eq_iff_distinct` says when none is lost: if no two names read as one key, and only then.
* `sections_of_validate` puts together what a configuration knows of the sections of its description.
-/

namespace Rewinding

/-! ### The last one of its kind -/

section Last

variable {α : Type} {R : α → α → Prop} {p : α → Bool}

/-- In a list that is ordered, the last element that satisfies `p` is the one that all others which do so
come before. -/
theorem getLast?_filter_eq_some_iff {l : List α} (hl : l.Pairwise R)
    (hasymm : ∀ {x y}, R x y → ¬R y x) {x : α} : (l.filter p).getLast? = some x ↔
      x ∈ l ∧ p x = true ∧ ∀ y ∈ l, p y = true → y = x ∨ R y x := by
  have hfilter := hl.filter p
  constructor
  · intro h
    obtain ⟨before, hsplit⟩ := List.getLast?_eq_some_iff.1 h
    have hx : x ∈ l.filter p := by simp [hsplit]
    rw [hsplit, List.pairwise_append] at hfilter
    refine ⟨(List.mem_filter.1 hx).1, (List.mem_filter.1 hx).2, ?_⟩
    intro y hy hp
    have hmem : y ∈ before ++ [x] := hsplit ▸ List.mem_filter.2 ⟨hy, hp⟩
    rcases List.mem_append.1 hmem with hbefore | hlast
    · exact Or.inr (hfilter.2.2 y hbefore x (by simp))
    · exact Or.inl (List.mem_singleton.1 hlast)
  · rintro ⟨hx, hp, hlast⟩
    obtain ⟨before, after, hsplit⟩ := List.append_of_mem (List.mem_filter.2 ⟨hx, hp⟩)
    -- nothing comes after it, as that would have to come before it as well
    have hnil : after = [] := by
      cases after with
      | nil => rfl
      | cons y after =>
        have hy : y ∈ l.filter p := by simp [hsplit]
        rw [hsplit, List.pairwise_append, List.pairwise_cons] at hfilter
        have hxy : R x y := hfilter.2.1.1 y (by simp)
        rcases hlast y (List.mem_filter.1 hy).1 (List.mem_filter.1 hy).2 with rfl | hyx
        · exact absurd hxy (hasymm hxy)
        · exact absurd hyx (hasymm hxy)
    rw [hsplit, hnil, List.getLast?_concat]

end Last

namespace Description

variable {d : Description} {c : Config}

/-! ### Names of one key -/

variable (d) in
/-- No two names read as one key. -/
def Distinct : Prop :=
  ∀ name ∈ d.actions, ∀ name' ∈ d.actions, ∀ k, ActionKey.parse name = .ok k →
    ActionKey.parse name' = .ok k → name = name'

variable (d) in
/-- The name is the last one that reads as the key. -/
def LastName (k : ActionKey) (name : String) : Prop :=
  ActionKey.parse name = .ok k ∧ ∀ name' ∈ d.actions, ActionKey.parse name' = .ok k →
    name' ≠ name → compare name' name = .lt

theorem decide_parse_eq_true {name : String} {k : ActionKey} :
    decide ((ActionKey.parse name).toOption = some k) = true ↔ ActionKey.parse name = .ok k := by
  cases ActionKey.parse name <;> simp [Except.toOption]

/-- Of the sections of one key the one with the last name is kept. -/
theorem section?_eq_some_iff {k : ActionKey} {a : ActionSection} : d.section? k = some a ↔
    ∃ name, d.actions[name]? = some a ∧ d.LastName k name := by
  have hasymm : ∀ {x y : String × ActionSection},
      compare x.1 y.1 = .lt → ¬compare y.1 x.1 = .lt := by
    intro x y h h'
    rw [Std.OrientedCmp.gt_of_lt h] at h'
    cases h'
  unfold section?
  rw [Option.map_eq_some_iff]
  simp only [getLast?_filter_eq_some_iff Std.ExtTreeMap.ordered_keys_toList hasymm,
    decide_parse_eq_true]
  constructor
  · rintro ⟨⟨name, _⟩, ⟨hmem, hk, hothers⟩, rfl⟩
    refine ⟨name, Std.ExtTreeMap.mem_toList_iff_getElem?_eq_some.1 hmem, hk, ?_⟩
    intro name' hname' hk' hne
    obtain ⟨b, hb⟩ := mem_iff_exists_getElem?.1 hname'
    rcases hothers (name', b) (Std.ExtTreeMap.mem_toList_iff_getElem?_eq_some.2 hb) hk' with he | hlt
    · exact absurd (congrArg Prod.fst he) hne
    · exact hlt
  · rintro ⟨name, ha, hk, hothers⟩
    refine ⟨(name, a), ⟨Std.ExtTreeMap.mem_toList_iff_getElem?_eq_some.2 ha, hk, ?_⟩, rfl⟩
    rintro ⟨name', b⟩ hmem hk'
    have hb := Std.ExtTreeMap.mem_toList_iff_getElem?_eq_some.1 hmem
    by_cases hne : name' = name
    · subst hne
      rw [ha] at hb
      cases hb
      exact Or.inl rfl
    · exact Or.inr (hothers name' (mem_iff_exists_getElem?.2 ⟨b, hb⟩) hk' hne)

/-! ### Names and keys -/

section Validate

variable (h : d.validate = .ok c)
include h

/-- Every name reads as a key. -/
theorem exists_parse_of_validate {name : String} (hname : name ∈ d.actions) :
    ∃ k, ActionKey.parse name = .ok k :=
  (valid_of_validate h).keys hname

/-- The keys of a configuration are what the names read as. -/
theorem mem_actions_iff {k : ActionKey} : k ∈ c.actions ↔
    ∃ name ∈ d.actions, ActionKey.parse name = .ok k := by
  have hsection : c.actions[k]? = d.section? k := (tables_of_validate h).getElem?_actions
  rw [Std.ExtTreeMap.mem_iff_isSome_getElem?, hsection]
  unfold section?
  rw [Option.isSome_map, Option.isSome_iff_ne_none, Ne, List.getLast?_eq_none_iff,
    List.filter_eq_nil_iff]
  simp only [decide_parse_eq_true, not_forall, not_not]
  constructor
  · rintro ⟨⟨name, a⟩, hmem, hk⟩
    have ha := Std.ExtTreeMap.mem_toList_iff_getElem?_eq_some.1 hmem
    exact ⟨name, mem_iff_exists_getElem?.2 ⟨a, ha⟩, hk⟩
  · rintro ⟨name, hname, hk⟩
    obtain ⟨a, ha⟩ := mem_iff_exists_getElem?.1 hname
    exact ⟨(name, a), Std.ExtTreeMap.mem_toList_iff_getElem?_eq_some.2 ha, hk⟩

theorem producerOf_eq_some_iff {k : ActionKey} {path : String} : c.producerOf path = some k ↔
    ∃ a, c.actions[k]? = some a ∧ path ∈ a.outputs := by
  have ht := tables_of_validate h
  unfold Config.producerOf
  rw [ht.getElem?_makers]
  simp only [Outputs, ht.getElem?_actions]

/-- The table has as many entries as there are keys. -/
theorem size_eq_card : c.actions.size =
    (d.actions.keys.toFinset.image fun name => (ActionKey.parse name).toOption).card := by
  have hkeys : c.actions.keys.toFinset.image some =
      d.actions.keys.toFinset.image fun name => (ActionKey.parse name).toOption := by
    ext k?
    simp only [Finset.mem_image, List.mem_toFinset, Std.ExtTreeMap.mem_keys, mem_actions_iff h]
    constructor
    · rintro ⟨k, ⟨name, hname, hk⟩, rfl⟩
      exact ⟨name, hname, by simp [hk, Except.toOption]⟩
    · rintro ⟨name, hname, rfl⟩
      obtain ⟨k, hk⟩ := exists_parse_of_validate h hname
      exact ⟨k, ⟨name, hname, hk⟩, by simp [hk, Except.toOption]⟩
  rw [← hkeys, Finset.card_image_of_injective _ (Option.some_injective _),
    List.toFinset_card_of_nodup Std.ExtTreeMap.nodup_keys, Std.ExtTreeMap.length_keys]

/-- No section is lost if no two names read as one key, and only then. -/
theorem size_eq_iff_distinct : c.actions.size = d.actions.size ↔ d.Distinct := by
  have hsize : d.actions.size = d.actions.keys.toFinset.card := by
    rw [List.toFinset_card_of_nodup Std.ExtTreeMap.nodup_keys, Std.ExtTreeMap.length_keys]
  rw [size_eq_card h, hsize, Finset.card_image_iff]
  simp only [Set.InjOn, List.coe_toFinset, Set.mem_ofPred_eq, Std.ExtTreeMap.mem_keys]
  constructor
  · intro hinj name hname name' hname' k hk hk'
    exact hinj hname hname' (by simp [hk, hk'])
  · intro hdistinct name hname name' hname' heq
    obtain ⟨k, hk⟩ := exists_parse_of_validate h hname
    obtain ⟨k', hk'⟩ := exists_parse_of_validate h hname'
    simp only [hk, hk', Except.toOption, Option.some.injEq] at heq
    subst heq
    exact hdistinct name hname name' hname' k hk hk'

end Validate

/-- **The sections of actions in a configuration.** Every name reads as a key of the table, and every key
of the table is what a name reads as. Under a key stands the section with the last of its names, and an
action makes just the outputs of the section under its key. So the table has an entry for each section
exactly if no two names read as one key; and then each section stands under the key that its name reads
as, and that key makes all of its outputs. -/
theorem sections_of_validate (h : d.validate = .ok c) :
    (∀ name ∈ d.actions, ∃ k ∈ c.actions, ActionKey.parse name = .ok k) ∧
    (∀ k ∈ c.actions, ∃ name ∈ d.actions, ActionKey.parse name = .ok k) ∧
    (∀ (k : ActionKey) (a : ActionSection), c.actions[k]? = some a ↔
      ∃ name, d.actions[name]? = some a ∧ d.LastName k name) ∧
    (∀ k path, c.producerOf path = some k ↔ ∃ a, c.actions[k]? = some a ∧ path ∈ a.outputs) ∧
    (c.actions.size = d.actions.size ↔ d.Distinct) ∧
    (d.Distinct → ∀ (name : String) (a : ActionSection), d.actions[name]? = some a →
      ∃ k, ActionKey.parse name = .ok k ∧ c.actions[k]? = some a ∧
        ∀ path ∈ a.outputs, c.producerOf path = some k) := by
  have hsection : ∀ (k : ActionKey) (a : ActionSection), c.actions[k]? = some a ↔
      ∃ name, d.actions[name]? = some a ∧ d.LastName k name := by
    intro k a
    rw [(tables_of_validate h).getElem?_actions]
    exact section?_eq_some_iff
  refine ⟨?_, fun k hk => (mem_actions_iff h).1 hk, hsection, fun k path => producerOf_eq_some_iff h,
    size_eq_iff_distinct h, ?_⟩
  · intro name hname
    obtain ⟨k, hk⟩ := exists_parse_of_validate h hname
    exact ⟨k, (mem_actions_iff h).2 ⟨name, hname, hk⟩, hk⟩
  · intro hdistinct name a ha
    have hname : name ∈ d.actions := mem_iff_exists_getElem?.2 ⟨a, ha⟩
    obtain ⟨k, hk⟩ := exists_parse_of_validate h hname
    have hlast : d.LastName k name := by
      refine ⟨hk, ?_⟩
      intro name' hname' hk' hne
      exact absurd (hdistinct name' hname' name hname k hk' hk) hne
    have hkept := (hsection k a).2 ⟨name, ha, hlast⟩
    refine ⟨k, hk, hkept, ?_⟩
    intro path hpath
    exact (producerOf_eq_some_iff h).2 ⟨a, hkept, hpath⟩

/-- Names that are not written the way keys are, and read as two keys. -/
def spelled : Description where
  actions := Std.ExtTreeMap.ofList
    [("//p#00", { outputs := ["out/a"] }), (" //p#+1", ({ outputs := ["out/b"] } : ActionSection))]

theorem validate_spelled : spelled.validate = .ok spelled.accepted :=
  validate_eq_accepted (by decide +kernel)

/-- Both sections are kept, and what they list is made. -/
theorem sections_of_validate_spelled : spelled.validate = .ok spelled.accepted ∧ spelled.Distinct ∧
    (∃ k, ActionKey.parse "//p#00" = .ok k ∧ spelled.accepted.producerOf "out/a" = some k) ∧
    ∃ k, ActionKey.parse " //p#+1" = .ok k ∧ spelled.accepted.producerOf "out/b" = some k := by
  obtain ⟨-, -, -, -, hsize, hkept⟩ := sections_of_validate validate_spelled
  have hdistinct : spelled.Distinct := hsize.1 (by decide +kernel)
  obtain ⟨k, hk, -, hout⟩ := hkept hdistinct "//p#00" { outputs := ["out/a"] } (by decide +kernel)
  obtain ⟨k', hk', -, hout'⟩ := hkept hdistinct " //p#+1" { outputs := ["out/b"] } (by decide +kernel)
  exact ⟨validate_spelled, hdistinct, ⟨k, hk, hout _ (by simp)⟩, k', hk', hout' _ (by simp)⟩

/-- Names that read as one key, as zeros in front of an index do not count. -/
def twiceNamed : Description where
  actions := Std.ExtTreeMap.ofList
    [("//p#0", { outputs := ["out/a"] }), ("//p#00", ({ outputs := ["out/b"] } : ActionSection))]

theorem validate_twiceNamed : twiceNamed.validate = .ok twiceNamed.accepted :=
  validate_eq_accepted (by decide +kernel)

/-- **A section that is lost.** The description is accepted, but the first of its two sections is not in
the table, and nothing makes the output that it lists. -/
theorem section_lost : ∃ c, twiceNamed.validate = .ok c ∧ ¬twiceNamed.Distinct ∧
    twiceNamed.actions.size = 2 ∧ c.actions.size = 1 ∧
    ∃ a : ActionSection, twiceNamed.actions["//p#0"]? = some a ∧ "out/a" ∈ a.outputs ∧
      c.producerOf "out/a" = none := by
  refine ⟨_, validate_twiceNamed, ?_, by decide +kernel, by decide +kernel, { outputs := ["out/a"] },
    by decide +kernel, by decide +kernel, by decide +kernel⟩
  intro hdistinct
  have hread : ActionKey.parse "//p#0" = .ok ⟨"//p", 0⟩ ∧ ActionKey.parse "//p#00" = .ok ⟨"//p", 0⟩ :=
    ⟨rfl, rfl⟩
  exact absurd (hdistinct "//p#0" (by decide +kernel) "//p#00" (by decide +kernel) ⟨"//p", 0⟩
    hread.1 hread.2) (by decide)

end Description

end Rewinding
