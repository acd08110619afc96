import Mathlib.Data.List.Nodup
import Mathlib.Data.List.Pairwise
import Rewinding.Proofs.Accepted
import Rewinding.Proofs.FinishOrder

/-!
# What each pass of the checks accepts

The checks go through the sections of a description in passes; each fills a table and stops at the
first fault. For every pass it is said which sections it accepts (`exists_read..._iff`,
`exists_checkArtifacts_iff`, `checkCycles_eq_ok`), over all sections at once and without the order in
which it goes through them, and what its table holds at the end.
-/

namespace Rewinding

/-! ### Passes -/

section Passes

variable {α β ε κ ν : Type}

/-- A pass whose steps do not depend on each other succeeds where all steps do. -/
theorem exists_foldlM_iff {f : β → α → Except ε β} {P : α → Prop}
    (hf : ∀ b a, (∃ b', f b a = .ok b') ↔ P a) {l : List α} {b : β} :
    (∃ r, l.foldlM f b = .ok r) ↔ ∀ a ∈ l, P a := by
  induction l generalizing b with
  | nil => simp [pure, Except.pure]
  | cons a l ih =>
    rw [List.forall_mem_cons, ← hf b a, List.foldlM_cons]
    cases h : f b a with
    | error e => simp [bind, Except.bind]
    | ok b' => simpa [bind, Except.bind] using ih (b := b')

/-- What each step establishes for its own element, and no other step destroys, holds at the end. -/
theorem forall_of_foldlM {f : β → α → Except ε β} {P : α → β → Prop}
    (hstep : ∀ b a b', f b a = .ok b' → P a b')
    (hkeep : ∀ b a b' a', f b a = .ok b' → P a' b → P a' b') {l : List α} {b r : β}
    (h : l.foldlM f b = .ok r) : ∀ a ∈ l, P a r := by
  induction l generalizing b with
  | nil => simp
  | cons a l ih =>
    rw [List.foldlM_cons] at h
    cases ha : f b a with
    | error e =>
      rw [ha] at h
      cases h
    | ok b' =>
      rw [ha] at h
      rw [List.forall_mem_cons]
      refine ⟨?_, ih h⟩
      exact foldlM_invariant (P a) (fun b₁ c _ b₂ hb hc => hkeep b₁ c b₂ a hc hb) (hstep b a b' ha) h

variable [Ord κ] [Std.TransOrd κ] [Std.LawfulEqOrd κ] (key : α → κ) (value : α → ν) {ok : α → Prop}
  {f : Std.ExtTreeMap κ ν → α → Except ε (Std.ExtTreeMap κ ν)}
  (hf : ∀ m a m', f m a = .ok m' ↔ ok a ∧ key a ∉ m ∧ m' = m.insert (key a) (value a))
include hf

/-- A pass that fills a table and takes no key twice. -/
theorem exists_foldlM_insert_iff {l : List α} {m : Std.ExtTreeMap κ ν} :
    (∃ r, l.foldlM f m = .ok r) ↔
      (∀ a ∈ l, ok a) ∧ (l.map key).Nodup ∧ ∀ a ∈ l, key a ∉ m := by
  induction l generalizing m with
  | nil => simp [pure, Except.pure]
  | cons a l ih =>
    rw [List.foldlM_cons, List.map_cons, List.nodup_cons]
    simp only [List.forall_mem_cons]
    cases h : f m a with
    | error e =>
      simp only [bind, Except.bind, reduceCtorEq, exists_false, false_iff]
      rintro ⟨⟨ha, -⟩, -, hm, -⟩
      cases h.symm.trans ((hf m a _).2 ⟨ha, hm, rfl⟩)
    | ok m' =>
      obtain ⟨ha, hm, rfl⟩ := (hf m a m').1 h
      have hfresh : (∀ b ∈ l, key b ∉ m.insert (key a) (value a)) ↔
          key a ∉ l.map key ∧ ∀ b ∈ l, key b ∉ m := by
        simp only [Std.ExtTreeMap.mem_insert, Std.LawfulEqCmp.compare_eq_iff_eq, not_or,
          List.mem_map, not_exists, not_and]
        constructor
        · intro hl
          exact ⟨fun b hb he => (hl b hb).1 he.symm, fun b hb => (hl b hb).2⟩
        · rintro ⟨hne, hl⟩ b hb
          exact ⟨fun he => hne b hb he.symm, hl b hb⟩
      show (∃ r, l.foldlM f _ = .ok r) ↔ _
      rw [ih, hfresh]
      constructor
      · rintro ⟨hl, hd, hnot, hrest⟩
        exact ⟨⟨ha, hl⟩, ⟨hnot, hd⟩, hm, hrest⟩
      · rintro ⟨⟨-, hl⟩, ⟨hnot, hd⟩, -, hrest⟩
        exact ⟨hl, hd, hnot, hrest⟩

theorem mem_of_foldlM_insert {l : List α} {m r : Std.ExtTreeMap κ ν} (h : l.foldlM f m = .ok r)
    {k : κ} : k ∈ r ↔ k ∈ m ∨ k ∈ l.map key := by
  induction l generalizing m with
  | nil =>
    obtain rfl := Except.ok.inj h
    simp
  | cons a l ih =>
    rw [List.foldlM_cons] at h
    cases ha : f m a with
    | error e =>
      rw [ha] at h
      cases h
    | ok m' =>
      rw [ha] at h
      obtain ⟨-, -, rfl⟩ := (hf m a m').1 ha
      rw [ih h, Std.ExtTreeMap.mem_insert, Std.LawfulEqCmp.compare_eq_iff_eq, List.map_cons,
        List.mem_cons]
      simp only [eq_comm, or_left_comm, or_assoc]

end Passes

/-- A key of a table is one under which it holds something. -/
theorem mem_iff_exists_getElem? {κ ν : Type} [Ord κ] [Std.TransOrd κ] {m : Std.ExtTreeMap κ ν}
    {k : κ} : k ∈ m ↔ ∃ v, m[k]? = some v := by
  rw [Std.ExtTreeMap.mem_iff_isSome_getElem?, Option.isSome_iff_exists]

/-- The entries of a table are related two by two where any two of different keys are. -/
theorem pairwise_toList_iff {κ ν : Type} [Ord κ] [Std.TransOrd κ] [Std.LawfulEqOrd κ]
    {m : Std.ExtTreeMap κ ν} {R : κ × ν → κ × ν → Prop} (hR : ∀ x y, R x y → R y x) :
    m.toList.Pairwise R ↔ ∀ (k k' : κ) v v', m[k]? = some v → m[k']? = some v' → k ≠ k' →
      R (k, v) (k', v') := by
  constructor
  · intro h k k' v v' hv hv' hne
    have : Std.Symm R := ⟨hR⟩
    refine h.forall (Std.ExtTreeMap.mem_toList_iff_getElem?_eq_some.2 hv)
      (Std.ExtTreeMap.mem_toList_iff_getElem?_eq_some.2 hv') fun he => hne ?_
    exact congrArg Prod.fst he
  · intro h
    refine Std.ExtTreeMap.distinct_keys_toList.imp_of_mem ?_
    rintro ⟨k, v⟩ ⟨k', v'⟩ hv hv' hne
    refine h k k' v v' (Std.ExtTreeMap.mem_toList_iff_getElem?_eq_some.1 hv)
      (Std.ExtTreeMap.mem_toList_iff_getElem?_eq_some.1 hv') ?_
    rintro rfl
    exact hne Std.ReflCmp.compare_self

namespace Config

variable {artifacts : Std.ExtTreeMap String ArtifactSection}
  {table : Std.ExtTreeMap ActionKey ActionSection} {makers : Std.ExtTreeMap String ActionKey}
  {expansions : Expansions}

/-! ### Actions -/

theorem addAction_eq_ok {table' : Std.ExtTreeMap ActionKey ActionSection}
    {named : String × ActionSection} : addAction table named = .ok table' ↔
      ∃ k, ActionKey.parse named.1 = .ok k ∧ table' = table.insert k named.2 := by
  unfold addAction
  cases ActionKey.parse named.1 <;> simp [eq_comm]

theorem exists_readActions_iff {sections : List (String × ActionSection)} :
    (∃ table, readActions sections = .ok table) ↔
      ∀ named ∈ sections, ∃ k, ActionKey.parse named.1 = .ok k := by
  refine exists_foldlM_iff fun table named => ?_
  simp only [addAction_eq_ok]
  constructor
  · rintro ⟨_, k, hk, -⟩
    exact ⟨k, hk⟩
  · rintro ⟨k, hk⟩
    exact ⟨_, k, hk, rfl⟩

theorem getElem?_of_foldlM_addAction {sections : List (String × ActionSection)}
    {start : Std.ExtTreeMap ActionKey ActionSection}
    (h : sections.foldlM addAction start = .ok table) (k : ActionKey) : table[k]? =
      ((sections.filter fun named => (ActionKey.parse named.1).toOption = some k).getLast?.map
        Prod.snd).or start[k]? := by
  induction sections generalizing start with
  | nil =>
    obtain rfl := Except.ok.inj h
    simp
  | cons named sections ih =>
    rw [List.foldlM_cons] at h
    cases ha : addAction start named with
    | error rejection =>
      rw [ha] at h
      cases h
    | ok next =>
      rw [ha] at h
      obtain ⟨key, hk, rfl⟩ := addAction_eq_ok.1 ha
      rw [ih h, Std.ExtTreeMap.getElem?_insert, List.filter_cons]
      simp only [hk, Except.toOption, Option.some.injEq, Std.LawfulEqCmp.compare_eq_iff_eq]
      by_cases he : key = k
      · simp only [he, decide_true, if_true, List.getLast?_cons]
        cases (List.filter _ sections).getLast? <;> rfl
      · simp [he]

/-! ### Outputs -/

theorem declaredSource_eq_false {path : String} : declaredSource artifacts path = false ↔
    ∀ declared, artifacts[path]? = some declared → declared.kind ≠ .source := by
  unfold declaredSource
  cases artifacts[path]? <;> simp

theorem addOutput_eq_ok {makers' : Std.ExtTreeMap String ActionKey}
    {output : ActionKey × ActionSection × String} :
    addOutput artifacts makers output = .ok makers' ↔
      (declaredSource artifacts output.2.2 = false ∧ output.2.2 ∉ output.2.1.inputs) ∧
        output.2.2 ∉ makers ∧ makers' = makers.insert output.2.2 output.1 := by
  unfold addOutput
  rw [Std.ExtTreeMap.mem_iff_isSome_getElem?]
  by_cases hs : declaredSource artifacts output.2.2
  · simp [hs]
  by_cases hi : output.2.2 ∈ output.2.1.inputs
  · simp [hs, hi]
  cases hm : makers[output.2.2]? <;> simp [hs, hi, hm, eq_comm]

theorem exists_readMakers_iff : (∃ makers, readMakers artifacts table = .ok makers) ↔
    (∀ (k : ActionKey) (a : ActionSection), table[k]? = some a → ∀ path ∈ a.outputs,
      declaredSource artifacts path = false ∧ path ∉ a.inputs) ∧
    (∀ (k : ActionKey) (a : ActionSection), table[k]? = some a → a.outputs.Nodup) ∧
    ∀ (k k' : ActionKey) (a a' : ActionSection), table[k]? = some a → table[k']? = some a' →
      k ≠ k' → List.Disjoint a.outputs a'.outputs := by
  unfold readMakers
  rw [exists_foldlM_insert_iff (fun output => output.2.2) Prod.fst
    fun _ _ _ => addOutput_eq_ok]
  have hpaths : (outputs table).map (fun output => output.2.2) =
      table.toList.flatMap fun entry => entry.2.outputs := by
    simp [outputs, List.map_flatMap, Function.comp_def]
  have hsymm : ∀ x y : ActionKey × ActionSection,
      Function.onFun List.Disjoint (fun entry => entry.2.outputs) x y →
      Function.onFun List.Disjoint (fun entry => entry.2.outputs) y x :=
    fun _ _ h => List.disjoint_symm h
  rw [hpaths, List.nodup_flatMap, pairwise_toList_iff hsymm]
  have hempty : ∀ output ∈ outputs table, output.2.2 ∉ (∅ : Std.ExtTreeMap String ActionKey) :=
    fun _ _ => Std.ExtTreeMap.not_mem_empty
  constructor
  · rintro ⟨hok, ⟨hnodup, hdisjoint⟩, -⟩
    refine ⟨fun k a ha path hpath => ?_, fun k a ha => ?_, fun k k' a a' ha ha' hne => ?_⟩
    · exact hok (k, a, path) (mem_outputs.2 ⟨ha, hpath⟩)
    · exact hnodup (k, a) (Std.ExtTreeMap.mem_toList_iff_getElem?_eq_some.2 ha)
    · exact hdisjoint k k' a a' ha ha' hne
  · rintro ⟨hok, hnodup, hdisjoint⟩
    refine ⟨?_, ⟨?_, ?_⟩, hempty⟩
    · rintro ⟨k, a, path⟩ ho
      obtain ⟨ha, hpath⟩ := mem_outputs.1 ho
      exact hok k a ha path hpath
    · rintro ⟨k, a⟩ he
      exact hnodup k a (Std.ExtTreeMap.mem_toList_iff_getElem?_eq_some.1 he)
    · intro k k' a a' ha ha' hne
      exact hdisjoint k k' a a' ha ha' hne

/-- What is made is what is output. -/
theorem mem_of_readMakers (h : readMakers artifacts table = .ok makers) {path : String} :
    path ∈ makers ↔ ∃ (k : ActionKey) (a : ActionSection), table[k]? = some a ∧ path ∈ a.outputs := by
  rw [mem_of_foldlM_insert (fun output => output.2.2) Prod.fst
    (fun _ _ _ => addOutput_eq_ok) h, List.mem_map]
  constructor
  · rintro (hm | ⟨⟨k, a, path⟩, ho, rfl⟩)
    · exact absurd hm Std.ExtTreeMap.not_mem_empty
    · exact ⟨k, a, mem_outputs.1 ho⟩
  · rintro ⟨k, a, ho⟩
    exact Or.inr ⟨(k, a, path), mem_outputs.2 ho, rfl⟩

/-- Each output is made by the action that lists it. -/
theorem getElem?_of_readMakers (h : readMakers artifacts table = .ok makers) {path : String}
    {k : ActionKey} :
    makers[path]? = some k ↔ ∃ a : ActionSection, table[k]? = some a ∧ path ∈ a.outputs := by
  constructor
  · exact makers_of_readMakers h
  · rintro ⟨a, ho⟩
    have hall := forall_of_foldlM (P := fun output made => made[output.2.2]? = some output.1)
      ?_ ?_ h (k, a, path) (mem_outputs.2 ho)
    · exact hall
    · intro made output made' hadd
      obtain ⟨-, -, rfl⟩ := addOutput_eq_ok.1 hadd
      exact Std.ExtTreeMap.getElem?_insert_self
    · intro made output made' other hadd hother
      obtain ⟨-, hfresh, rfl⟩ := addOutput_eq_ok.1 hadd
      rw [Std.ExtTreeMap.getElem?_insert, if_neg, hother]
      rintro he
      obtain he := Std.LawfulEqCmp.compare_eq_iff_eq.1 he
      exact hfresh (he ▸ mem_iff_exists_getElem?.2 ⟨_, hother⟩)

/-! ### Templates -/

theorem addExpanded_eq_ok {path name : String} {keys keys' : Std.ExtTreeSet ActionKey} :
    addExpanded table path keys name = .ok keys' ↔
      ∃ k, ActionKey.parse name = .ok k ∧ k ∈ table ∧ keys' = keys.insert k := by
  unfold addExpanded
  cases ActionKey.parse name with
  | error malformed => simp
  | ok k => by_cases hk : k ∈ table <;> simp [hk, eq_comm]

theorem exists_foldlM_addExpanded_iff (path : String) {names : List String} :
    (∃ keys, names.foldlM (addExpanded table path) ∅ = .ok keys) ↔
      ∀ name ∈ names, ∃ k, ActionKey.parse name = .ok k ∧ k ∈ table := by
  refine exists_foldlM_iff fun keys name => ?_
  simp only [addExpanded_eq_ok]
  constructor
  · rintro ⟨_, k, hk, hmem, -⟩
    exact ⟨k, hk, hmem⟩
  · rintro ⟨k, hk, hmem⟩
    exact ⟨_, k, hk, hmem, rfl⟩

/-- A template expands to what its names read as. -/
theorem mem_expanded_iff {path : String} {names : List String} {keys : Std.ExtTreeSet ActionKey}
    (h : names.foldlM (addExpanded table path) ∅ = .ok keys) {k : ActionKey} :
    k ∈ keys ↔ ∃ name ∈ names, ActionKey.parse name = .ok k := by
  constructor
  · refine foldlM_invariant (fun keys => k ∈ keys → ∃ name ∈ names, ActionKey.parse name = .ok k)
      ?_ ?_ h
    · intro keys name hname keys' ih hadd hk
      obtain ⟨k', hk', -, rfl⟩ := addExpanded_eq_ok.1 hadd
      obtain he | hk := Std.ExtTreeSet.mem_insert.1 hk
      · exact ⟨name, hname, Std.LawfulEqCmp.compare_eq_iff_eq.1 he ▸ hk'⟩
      · exact ih hk
    · intro hk
      exact absurd hk Std.ExtTreeSet.not_mem_empty
  · rintro ⟨name, hname, hk⟩
    have hall : ∀ name ∈ names, ActionKey.parse name = .ok k → k ∈ keys := by
      refine forall_of_foldlM (P := fun name (keys : Std.ExtTreeSet ActionKey) =>
        ActionKey.parse name = .ok k → k ∈ keys) ?_ ?_ h
      · intro keys name keys' hadd hk
        obtain ⟨k', hk', -, rfl⟩ := addExpanded_eq_ok.1 hadd
        cases hk.symm.trans hk'
        exact Std.ExtTreeSet.mem_insert_self
      · intro keys name keys' other hadd hother hk
        obtain ⟨k', -, -, rfl⟩ := addExpanded_eq_ok.1 hadd
        exact Std.ExtTreeSet.mem_insert.2 (Or.inr (hother hk))
    exact hall name hname hk

theorem addExpansion_eq_ok {expansions' : Expansions} {declared : String × ArtifactSection} :
    addExpansion table makers expansions declared = .ok expansions' ↔
      (declared.2.expandedActions = [] ∧ expansions' = expansions) ∨
      (declared.2.expandedActions ≠ [] ∧ declared.2.kind = .tree ∧ declared.1 ∉ makers ∧
        ∃ keys, declared.2.expandedActions.foldlM (addExpanded table declared.1) ∅ = .ok keys ∧
          expansions' = expansions.insert declared.1 keys) := by
  obtain ⟨path, artifact⟩ := declared
  unfold addExpansion
  rw [Std.ExtTreeMap.mem_iff_isSome_getElem?]
  by_cases hnames : artifact.expandedActions = []
  · simp only [hnames, List.isEmpty_nil, if_true, Except.ok.injEq, true_and, ne_eq,
      not_true_eq_false, false_and, or_false, eq_comm]
  simp only [List.isEmpty_iff, hnames, if_false, false_and, false_or, ne_eq, not_false_eq_true,
    true_and]
  by_cases hkind : artifact.kind = .tree
  · cases makers[path]? with
    | some k => simp [hkind]
    | none =>
      cases artifact.expandedActions.foldlM (addExpanded table path) ∅ <;> simp [hkind, eq_comm]
  · simp [hkind]

theorem exists_readExpansions_iff :
    (∃ expansions, readExpansions artifacts table makers = .ok expansions) ↔
      ∀ (path : String) (declared : ArtifactSection), artifacts[path]? = some declared →
        declared.expandedActions ≠ [] → declared.kind = .tree ∧ path ∉ makers ∧
          ∀ name ∈ declared.expandedActions, ∃ k, ActionKey.parse name = .ok k ∧ k ∈ table := by
  unfold readExpansions
  rw [exists_foldlM_iff (P := fun declared => declared.2.expandedActions ≠ [] →
    declared.2.kind = .tree ∧ declared.1 ∉ makers ∧ ∀ name ∈ declared.2.expandedActions,
      ∃ k, ActionKey.parse name = .ok k ∧ k ∈ table)]
  · constructor
    · intro h path declared hd
      exact h (path, declared) (Std.ExtTreeMap.mem_toList_iff_getElem?_eq_some.2 hd)
    · rintro h ⟨path, declared⟩ hd
      exact h path declared (Std.ExtTreeMap.mem_toList_iff_getElem?_eq_some.1 hd)
  · intro expansions declared
    simp only [addExpansion_eq_ok]
    rw [← exists_foldlM_addExpanded_iff declared.1]
    by_cases hnames : declared.2.expandedActions = []
    · simp [hnames]
    · simp only [hnames, false_and, false_or, ne_eq, not_false_eq_true, true_and, forall_const,
        exists_and_left, exists_comm (α := Expansions), exists_eq, and_true]

theorem exists_of_readExpansions (h : readExpansions artifacts table makers = .ok expansions)
    {path : String} {keys : Std.ExtTreeSet ActionKey} (hk : expansions[path]? = some keys) :
    ∃ declared : ArtifactSection, artifacts[path]? = some declared ∧
      declared.expandedActions ≠ [] ∧
      declared.expandedActions.foldlM (addExpanded table path) ∅ = .ok keys := by
  refine foldlM_invariant (fun (expansions : Expansions) => ∀ (path : String)
    (keys : Std.ExtTreeSet ActionKey), expansions[path]? = some keys → ∃ declared : ArtifactSection,
      artifacts[path]? = some declared ∧ declared.expandedActions ≠ [] ∧
      declared.expandedActions.foldlM (addExpanded table path) ∅ = .ok keys) ?_ ?_ h path keys hk
  · rintro read ⟨tree, declared⟩ ht read' hread hadd path keys hk
    obtain ⟨-, rfl⟩ | ⟨hnames, -, -, found, hfound, rfl⟩ := addExpansion_eq_ok.1 hadd
    · exact hread path keys hk
    · rw [Std.ExtTreeMap.getElem?_insert] at hk
      split at hk
      case isTrue he =>
        cases hk
        obtain rfl := Std.LawfulEqCmp.compare_eq_iff_eq.1 he
        exact ⟨declared, Std.ExtTreeMap.mem_toList_iff_getElem?_eq_some.1 ht, hnames, hfound⟩
      case isFalse => exact hread path keys hk
  · intro path keys hk
    simp at hk

theorem mem_of_readExpansions (h : readExpansions artifacts table makers = .ok expansions)
    {path : String} : path ∈ expansions ↔ ∃ declared : ArtifactSection,
      artifacts[path]? = some declared ∧ declared.expandedActions ≠ [] := by
  constructor
  · intro hp
    obtain ⟨keys, hk⟩ := mem_iff_exists_getElem?.1 hp
    obtain ⟨declared, hd, hnames, -⟩ := exists_of_readExpansions h hk
    exact ⟨declared, hd, hnames⟩
  · rintro ⟨declared, hd, hnames⟩
    refine forall_of_foldlM (P := fun declared (read : Expansions) =>
      declared.2.expandedActions ≠ [] → declared.1 ∈ read) ?_ ?_ h (path, declared)
      (Std.ExtTreeMap.mem_toList_iff_getElem?_eq_some.2 hd) hnames
    · intro read declared read' hadd hnames
      obtain ⟨hnone, -⟩ | ⟨-, -, -, found, -, rfl⟩ := addExpansion_eq_ok.1 hadd
      · exact absurd hnone hnames
      · exact Std.ExtTreeMap.mem_insert_self
    · intro read declared read' other hadd hother hnames
      obtain ⟨-, rfl⟩ | ⟨-, -, -, found, -, rfl⟩ := addExpansion_eq_ok.1 hadd
      · exact hother hnames
      · exact Std.ExtTreeMap.mem_insert.2 (Or.inr (hother hnames))

/-- The templates expanded to an action where one of their names reads as its key. -/
theorem exists_expanded_iff (h : readExpansions artifacts table makers = .ok expansions)
    {path : String} {k : ActionKey} :
    (∃ keys : Std.ExtTreeSet ActionKey, expansions[path]? = some keys ∧ k ∈ keys) ↔
      ∃ declared : ArtifactSection, artifacts[path]? = some declared ∧
        ∃ name ∈ declared.expandedActions, ActionKey.parse name = .ok k := by
  constructor
  · rintro ⟨keys, hkeys, hk⟩
    obtain ⟨declared, hd, -, hread⟩ := exists_of_readExpansions h hkeys
    exact ⟨declared, hd, (mem_expanded_iff hread).1 hk⟩
  · rintro ⟨declared, hd, name, hname, hk⟩
    have hp := (mem_of_readExpansions h).2 ⟨declared, hd, List.ne_nil_of_mem hname⟩
    obtain ⟨keys, hkeys⟩ := mem_iff_exists_getElem?.1 hp
    obtain ⟨declared', hd', -, hread⟩ := exists_of_readExpansions h hkeys
    cases hd.symm.trans hd'
    exact ⟨keys, hkeys, (mem_expanded_iff hread).2 ⟨name, hname, hk⟩⟩

/-! ### Members -/

/-- The owners of one kind. -/
def Membership.ofKind (m : Membership) : ArtifactKind → Std.ExtTreeMap String String
  | .tree => m.trees
  | .runfiles => m.runfiles
  | .source | .derived => ∅

def Membership.withOwners (m : Membership) (owners : Std.ExtTreeMap String String) :
    ArtifactKind → Membership
  | .tree => { m with trees := owners }
  | .runfiles => { m with runfiles := owners }
  | .source | .derived => m

theorem Membership.withOwners_ofKind (m : Membership) (kind : ArtifactKind) :
    m.withOwners (m.ofKind kind) kind = m := by
  cases kind <;> rfl

theorem Membership.ofKind_withOwners_of_ne {m : Membership} {owners : Std.ExtTreeMap String String}
    {kind kind' : ArtifactKind} (h : kind' ≠ kind) :
    (m.withOwners owners kind).ofKind kind' = m.ofKind kind' := by
  cases kind <;> cases kind' <;> first | rfl | exact absurd rfl h

theorem Membership.ofKind_withOwners {m : Membership} {owners : Std.ExtTreeMap String String}
    {kind : ArtifactKind} (h : kind = .tree ∨ kind = .runfiles) :
    (m.withOwners owners kind).ofKind kind = owners := by
  obtain rfl | rfl := h <;> rfl

/-- What is required of a declared artifact on its own. -/
def Sound (makers : Std.ExtTreeMap String ActionKey) (expansions : Expansions)
    (declared : String × ArtifactSection) : Prop :=
  (declared.2.kind ≠ .source → declared.1 ∈ makers ∨ declared.1 ∈ expansions) ∧
  (declared.2.members ≠ [] → declared.2.kind = .tree ∨ declared.2.kind = .runfiles) ∧
  declared.1 ∉ declared.2.members ∧ declared.2.members.Nodup

theorem addMember_eq_ok {path member : String} {owners owners' : Std.ExtTreeMap String String} :
    addMember path owners member = .ok owners' ↔
      member ≠ path ∧ member ∉ owners ∧ owners' = owners.insert member path := by
  unfold addMember
  rw [Std.ExtTreeMap.mem_iff_isSome_getElem?]
  by_cases hself : member = path
  · simp [hself]
  · cases owners[member]? <;> simp [hself, eq_comm]

theorem exists_foldlM_addMember_iff (path : String) (members : List String)
    (owners : Std.ExtTreeMap String String) :
    (∃ owners', members.foldlM (addMember path) owners = .ok owners') ↔
      path ∉ members ∧ members.Nodup ∧ ∀ member ∈ members, member ∉ owners := by
  rw [exists_foldlM_insert_iff id (fun _ => path) fun _ _ _ => addMember_eq_ok,
    List.map_id]
  refine and_congr_left fun _ => ?_
  constructor
  · intro h hp
    exact h path hp rfl
  · rintro h member hm rfl
    exact h hm

variable {membership membership' : Membership} {declared : String × ArtifactSection}

theorem addArtifact_eq_ok : addArtifact makers expansions membership declared = .ok membership' ↔
    (declared.2.kind ≠ .source → declared.1 ∈ makers ∨ declared.1 ∈ expansions) ∧
    (declared.2.members ≠ [] → declared.2.kind = .tree ∨ declared.2.kind = .runfiles) ∧
    ∃ owners, declared.2.members.foldlM (addMember declared.1)
        (membership.ofKind declared.2.kind) = .ok owners ∧
      membership' = membership.withOwners owners declared.2.kind := by
  obtain ⟨path, artifact⟩ := declared
  unfold addArtifact
  simp only
  by_cases hp : artifact.kind ≠ .source ∧ path ∉ makers ∧ path ∉ expansions
  · rw [if_pos hp]
    simp [hp]
  have hmade : artifact.kind ≠ .source → path ∈ makers ∨ path ∈ expansions := by
    intro hkind
    by_contra hno
    exact hp ⟨hkind, not_or.1 hno⟩
  rw [if_neg hp]
  simp only [eq_true hmade, true_and]
  cases artifact.kind with
  | tree =>
    simp only [Membership.ofKind, Membership.withOwners]
    cases artifact.members.foldlM (addMember path) membership.trees <;> simp [Except.map, eq_comm]
  | runfiles =>
    simp only [Membership.ofKind, Membership.withOwners]
    cases artifact.members.foldlM (addMember path) membership.runfiles <;> simp [Except.map, eq_comm]
  | source =>
    cases artifact.members <;>
      simp [Membership.ofKind, Membership.withOwners, pure, Except.pure, eq_comm]
  | derived =>
    cases artifact.members <;>
      simp [Membership.ofKind, Membership.withOwners, pure, Except.pure, eq_comm]

theorem exists_addArtifact_iff :
    (∃ membership', addArtifact makers expansions membership declared = .ok membership') ↔
      Sound makers expansions declared ∧
        ∀ member ∈ declared.2.members, member ∉ membership.ofKind declared.2.kind := by
  have hown := exists_foldlM_addMember_iff declared.1 declared.2.members
    (membership.ofKind declared.2.kind)
  simp only [addArtifact_eq_ok, Sound, and_assoc, ← hown]
  constructor
  · rintro ⟨_, hmade, hkind, owners, howners, -⟩
    exact ⟨hmade, hkind, owners, howners⟩
  · rintro ⟨hmade, hkind, owners, howners⟩
    exact ⟨_, hmade, hkind, owners, howners, rfl⟩

theorem mem_ofKind_of_addArtifact
    (h : addArtifact makers expansions membership declared = .ok membership') {kind : ArtifactKind}
    {member : String} : member ∈ membership'.ofKind kind ↔
      member ∈ membership.ofKind kind ∨ declared.2.kind = kind ∧ member ∈ declared.2.members := by
  obtain ⟨-, hkind, owners, howners, rfl⟩ := addArtifact_eq_ok.1 h
  by_cases hmembers : declared.2.members = []
  · rw [hmembers] at howners
    obtain rfl := Except.ok.inj howners
    simp [Membership.withOwners_ofKind, hmembers]
  by_cases he : declared.2.kind = kind
  · subst he
    rw [Membership.ofKind_withOwners (hkind hmembers), mem_of_foldlM_insert id
      (fun _ => declared.1) (fun _ _ _ => addMember_eq_ok) howners, List.map_id]
    simp
  · rw [Membership.ofKind_withOwners_of_ne (Ne.symm he)]
    simp [he]

theorem exists_foldlM_addArtifact_iff {sections : List (String × ArtifactSection)} :
    (∃ membership', sections.foldlM (addArtifact makers expansions) membership = .ok membership') ↔
      (∀ declared ∈ sections, Sound makers expansions declared ∧
        ∀ member ∈ declared.2.members, member ∉ membership.ofKind declared.2.kind) ∧
      sections.Pairwise fun declared other =>
        declared.2.kind = other.2.kind → List.Disjoint declared.2.members other.2.members := by
  induction sections generalizing membership with
  | nil => simp [pure, Except.pure]
  | cons declared sections ih =>
    rw [List.foldlM_cons, List.pairwise_cons, List.forall_mem_cons, ← exists_addArtifact_iff]
    cases h : addArtifact makers expansions membership declared with
    | error rejection => simp [bind, Except.bind]
    | ok next =>
      have hfresh : ∀ other : String × ArtifactSection,
          (∀ member ∈ other.2.members, member ∉ next.ofKind other.2.kind) ↔
          (∀ member ∈ other.2.members, member ∉ membership.ofKind other.2.kind) ∧
          (declared.2.kind = other.2.kind → List.Disjoint declared.2.members other.2.members) := by
        intro other
        simp only [mem_ofKind_of_addArtifact h, not_or, not_and]
        constructor
        · intro hn
          refine ⟨fun member hm => (hn member hm).1, fun he member hd hm => ?_⟩
          exact (hn member hm).2 he hd
        · rintro ⟨hn, hd⟩ member hm
          exact ⟨hn member hm, fun he hmem => hd he hmem hm⟩
      have hnext : (∃ r, (Except.ok next : Except Rejection Membership) = .ok r) := ⟨next, rfl⟩
      show (∃ r, sections.foldlM (addArtifact makers expansions) next = .ok r) ↔ _
      simp only [ih, hfresh, eq_true hnext, true_and]
      constructor
      · rintro ⟨hs, hp⟩
        exact ⟨fun d hd => ⟨(hs d hd).1, (hs d hd).2.1⟩, fun d hd => (hs d hd).2.2, hp⟩
      · rintro ⟨hs, hp, hrest⟩
        exact ⟨fun d hd => ⟨(hs d hd).1, (hs d hd).2, hp d hd⟩, hrest⟩

/-- Artifacts pass where each is sound and no two collections of a kind share a member. -/
theorem exists_checkArtifacts_iff :
    (∃ membership, checkArtifacts artifacts makers expansions = .ok membership) ↔
      (∀ (path : String) (declared : ArtifactSection), artifacts[path]? = some declared →
        Sound makers expansions (path, declared)) ∧
      ∀ (path path' : String) (declared declared' : ArtifactSection),
        artifacts[path]? = some declared → artifacts[path']? = some declared' → path ≠ path' →
        declared.kind = declared'.kind → List.Disjoint declared.members declared'.members := by
  have hsymm : ∀ x y : String × ArtifactSection,
      (x.2.kind = y.2.kind → List.Disjoint x.2.members y.2.members) →
      (y.2.kind = x.2.kind → List.Disjoint y.2.members x.2.members) :=
    fun _ _ h he => List.disjoint_symm (h he.symm)
  have hempty : ∀ (kind : ArtifactKind) (member : String), member ∉ ({} : Membership).ofKind kind := by
    intro kind member
    cases kind <;> exact Std.ExtTreeMap.not_mem_empty
  unfold checkArtifacts
  rw [exists_foldlM_addArtifact_iff, pairwise_toList_iff hsymm]
  refine and_congr_left fun _ => ?_
  constructor
  · intro h path declared hd
    exact (h (path, declared) (Std.ExtTreeMap.mem_toList_iff_getElem?_eq_some.2 hd)).1
  · rintro h ⟨path, declared⟩ hd
    exact ⟨h path declared (Std.ExtTreeMap.mem_toList_iff_getElem?_eq_some.1 hd),
      fun member _ => hempty _ member⟩

/-! ### Cycles -/

theorem mem_makersOf {path : String} {k : ActionKey} : k ∈ makersOf makers expansions path ↔
    makers[path]? = some k ∨
      ∃ keys : Std.ExtTreeSet ActionKey, expansions[path]? = some keys ∧ k ∈ keys := by
  unfold makersOf
  rw [List.mem_append, Option.mem_toList]
  cases expansions[path]? <;> simp

theorem checkCycles_eq_ok {c : Config} :
    checkCycles c.actions c.makers c.expansions = .ok () ↔
      ∀ k, ¬Relation.TransGen c.Precedes k k := by
  have hsame : (precedence c.actions c.makers c.expansions).Precedes = c.Precedes := by
    funext v w
    exact propext precedes_precedence
  rw [← hsame, ← Precedence.culprit?_eq_none_iff fun _ _ => mem_nodes_precedence]
  unfold checkCycles
  cases (precedence c.actions c.makers c.expansions).culprit? <;> simp

end Config

end Rewinding
