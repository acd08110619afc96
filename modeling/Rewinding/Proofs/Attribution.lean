import Mathlib.Data.List.Basic
import Rewinding.Ownership

/-!
# To which artifact a lost input is attributed

The rules for lost inputs name four artifacts that may account for one, in an order of preference
(`candidates`): the input itself, the collection that owns it, the collection of runfiles that owns it,
and the collection of runfiles that owns that collection. An input is attributed to the first of them
that the failed action depends on (`attribution?`).

* `resolve_eq` says what is made of a list of inputs: the first one that is `Misplaced` ends it, and
  where there is none each input is put under the artifact to which it is attributed.
* `getElem?_resolved` describes the table that this makes, without the order of the inputs.
* `resolve_spec` puts together what there is to know of the result.
-/

namespace Rewinding.Ownership

variable (o : Ownership) (failed : ActionKey)

/-- The artifacts that may account for a lost input, the first choice first. -/
def candidates (input : Input) : List Artifact :=
  input.artifact?.toList ++ (o.collections.ownerOf input.path).toList ++
    (o.runfiles.ownerOf input.path).toList ++
    ((o.collections.ownerOf input.path).bind fun tree => o.runfiles.ownerOf tree.path).toList

/-- The artifact to which a lost input is attributed. -/
def attribution? (input : Input) : Option Artifact := (o.candidates input).find? o.isDirect

/-- The input is a direct dependency and yet no artifact. -/
def Misplaced (input : Input) : Prop := input.artifact? = none ∧ input.node ∈ o.directDeps

instance (input : Input) : Decidable (o.Misplaced input) :=
  inferInstanceAs (Decidable (input.artifact? = none ∧ input.node ∈ o.directDeps))

theorem exists_misplaced_iff {inputs : List Input} : (∃ input ∈ inputs, o.Misplaced input) ↔
    ∃ path, .virtual path ∈ inputs ∧ .artifact path ∈ o.directDeps := by
  constructor
  · rintro ⟨input, hinput, hnone, hdirect⟩
    cases input with
    | artifact a => cases hnone
    | virtual path => exact ⟨path, hinput, hdirect⟩
  · rintro ⟨path, hinput, hdirect⟩
    exact ⟨.virtual path, hinput, rfl, hdirect⟩

/-! ### One input -/

variable {o failed}

theorem isDirect_of_attribution? {input : Input} {a : Artifact} (h : o.attribution? input = some a) :
    o.isDirect a = true :=
  List.find?_some h

/-- Where an artifact that accounts for an input comes from. -/
theorem origin_of_attribution? {input : Input} {a : Artifact} (h : o.attribution? input = some a) :
    input = .artifact a ∨
      ∃ member, o.collections.ownerOf member = some a ∨ o.runfiles.ownerOf member = some a := by
  have hmem := List.mem_of_find?_eq_some h
  simp only [candidates, List.mem_append, Option.mem_toList, Option.bind_eq_some_iff] at hmem
  rcases hmem with ((hself | howner) | hrunfiles) | ⟨tree, -, hrunfiles⟩
  · cases input with
    | artifact b =>
      cases hself
      exact Or.inl rfl
    | virtual path => cases hself
  · exact Or.inr ⟨_, Or.inl howner⟩
  · exact Or.inr ⟨_, Or.inr hrunfiles⟩
  · exact Or.inr ⟨_, Or.inr hrunfiles⟩

/-- A member of a tree is attributed to the runfiles that the tree belongs to, where neither the member
nor the tree is a direct dependency. -/
example : attribution?
    { collections := Owners.lookup (.ofPairs [("out/tree/leaf", ⟨"out/tree", .tree⟩)])
      runfiles := Owners.lookup (.ofPairs [("out/tree", ⟨"out/run", .runfiles⟩)])
      directDeps := {.artifact "out/run"} }
    (.artifact ⟨"out/tree/leaf", .derived⟩) = some ⟨"out/run", .runfiles⟩ := by
  decide +kernel

/-- An artifact that the failed action depends on accounts for itself. -/
theorem attribution?_of_mem {a : Artifact} (h : a.node ∈ o.directDeps) :
    o.attribution? (.artifact a) = some a := by
  have hdirect : o.isDirect a = true := h
  simp [attribution?, candidates, Input.artifact?, hdirect]

theorem find?_toList (x : Option Artifact) : x.toList.find? o.isDirect = x.filter o.isDirect := by
  cases x with
  | none => rfl
  | some a => cases h : o.isDirect a <;> simp [Option.filter, h]

theorem collectionFor_eq {input : Input} (h : input.node ∉ o.directDeps) :
    o.collectionFor input = o.attribution? input := by
  -- the input itself is passed over
  have hself : input.artifact?.filter o.isDirect = none := by
    cases input with
    | virtual path => rfl
    | artifact a =>
      have h : a.node ∉ o.directDeps := h
      simpa [Input.artifact?, isDirect] using h
  simp [collectionFor, attribution?, candidates, List.find?_append, find?_toList, hself]

theorem responsibleFor_eq (input : Input) : o.responsibleFor failed input =
    if o.Misplaced input then .error (.virtualDependency input.path failed)
    else .ok (o.attribution? input) := by
  unfold responsibleFor Misplaced
  by_cases hd : input.node ∈ o.directDeps
  · cases input with
    | virtual path => simp [hd, Input.artifact?]
    | artifact a => simp [hd, Input.artifact?, attribution?_of_mem (show a.node ∈ o.directDeps from hd)]
  · simp [hd, collectionFor_eq hd]

/-! ### All inputs -/

variable (o) in
/-- Put an input under the artifact to which it is attributed, if there is one. -/
def assign (r : Responsible) (input : Input) : Responsible :=
  match o.attribution? input with
  | some a => r.add a input
  | none => r

theorem addInput_eq (r : Responsible) (input : Input) : o.addInput failed r input =
    if o.Misplaced input then .error (.virtualDependency input.path failed)
    else .ok (o.assign r input) := by
  unfold addInput assign
  rw [responsibleFor_eq]
  by_cases hm : o.Misplaced input
  · simp [hm]
  · cases o.attribution? input <;> simp [hm]

/-- The first misplaced input ends it. -/
theorem foldlM_addInput_eq (inputs : List Input) (r : Responsible) :
    inputs.foldlM (o.addInput failed) r =
      match inputs.find? o.Misplaced with
      | some input => .error (.virtualDependency input.path failed)
      | none => .ok (inputs.foldl o.assign r) := by
  induction inputs generalizing r with
  | nil => rfl
  | cons input inputs ih =>
    rw [List.foldlM_cons, addInput_eq]
    by_cases hm : o.Misplaced input
    · simp [hm, bind, Except.bind]
    · simpa [hm, bind, Except.bind] using ih _

theorem resolve_eq (inputs : List Input) : o.resolve failed inputs =
    match inputs.find? o.Misplaced with
    | some input => .error (.virtualDependency input.path failed)
    | none => .ok (inputs.foldl o.assign ∅) :=
  foldlM_addInput_eq inputs ∅

/-! ### The table -/

theorem mem_assign {r : Responsible} {input : Input} {a : Artifact} :
    a ∈ o.assign r input ↔ o.attribution? input = some a ∨ a ∈ r := by
  unfold assign Responsible.add
  cases o.attribution? input with
  | none => simp
  | some b => simp [Std.ExtTreeMap.mem_insert]

/-- One more input comes under the artifact to which it is attributed, and the others stay. -/
theorem mem_getD_assign {r : Responsible} {input other : Input} {a : Artifact} :
    other ∈ (o.assign r input)[a]?.getD ∅ ↔
      (other = input ∧ o.attribution? input = some a) ∨ other ∈ r[a]?.getD ∅ := by
  unfold assign Responsible.add
  cases o.attribution? input with
  | none => simp
  | some b =>
    by_cases hb : b = a
    · subst hb
      simp only [Std.ExtTreeMap.getElem?_insert_self, Option.getD_some, Std.ExtTreeSet.mem_insert,
        Std.LawfulEqCmp.compare_eq_iff_eq, and_true]
      rw [eq_comm]
    · simp [Std.ExtTreeMap.getElem?_insert, hb]

theorem mem_foldl_assign {inputs : List Input} {r : Responsible} {a : Artifact} :
    a ∈ inputs.foldl o.assign r ↔
      (∃ input ∈ inputs, o.attribution? input = some a) ∨ a ∈ r := by
  induction inputs generalizing r with
  | nil => simp
  | cons input inputs ih =>
    rw [List.foldl_cons, ih, mem_assign]
    grind

theorem mem_getD_foldl_assign {inputs : List Input} {r : Responsible} {a : Artifact} {input : Input} :
    input ∈ (inputs.foldl o.assign r)[a]?.getD ∅ ↔
      (input ∈ inputs ∧ o.attribution? input = some a) ∨ input ∈ r[a]?.getD ∅ := by
  induction inputs generalizing r with
  | nil => simp
  | cons other inputs ih =>
    rw [List.foldl_cons, ih, mem_getD_assign, List.mem_cons]
    grind

/-- The table that comes of some inputs: an artifact has an entry if one of them is attributed to it, and
the entry is the set of those. -/
theorem getElem?_resolved {inputs : List Input} {a : Artifact} {s : Std.ExtTreeSet Input} :
    (inputs.foldl o.assign ∅)[a]? = some s ↔ (∃ input ∈ inputs, o.attribution? input = some a) ∧
      ∀ input, input ∈ s ↔ input ∈ inputs ∧ o.attribution? input = some a := by
  have hkey : a ∈ inputs.foldl o.assign ∅ ↔ ∃ input ∈ inputs, o.attribution? input = some a := by
    simp [mem_foldl_assign]
  have hentry : ∀ input, input ∈ (inputs.foldl o.assign ∅)[a]?.getD ∅ ↔
      input ∈ inputs ∧ o.attribution? input = some a := by
    intro input
    simp [mem_getD_foldl_assign]
  rw [Std.ExtTreeMap.mem_iff_isSome_getElem?] at hkey
  cases hfound : (inputs.foldl o.assign ∅)[a]? with
  | none =>
    rw [hfound] at hkey
    constructor
    · intro h
      cases h
    · rintro ⟨hsome, -⟩
      cases hkey.2 hsome
  | some t =>
    rw [hfound] at hkey hentry
    constructor
    · rintro ⟨⟩
      exact ⟨hkey.1 rfl, hentry⟩
    · rintro ⟨-, hs⟩
      apply congrArg some
      apply Std.ExtTreeSet.ext_mem
      intro input
      rw [hs]
      exact hentry input

/-- The order of the inputs, and how often each stands among them, is no matter. -/
theorem foldl_assign_congr {inputs inputs' : List Input} (h : ∀ input, input ∈ inputs ↔ input ∈ inputs') :
    inputs.foldl o.assign ∅ = inputs'.foldl o.assign ∅ := by
  apply Std.ExtTreeMap.ext_getElem?
  intro a
  apply Option.ext
  intro s
  rw [getElem?_resolved, getElem?_resolved]
  simp only [h]

theorem resolve_eq_ok {inputs : List Input} {r : Responsible} : o.resolve failed inputs = .ok r ↔
    (∀ input ∈ inputs, ¬o.Misplaced input) ∧ r = inputs.foldl o.assign ∅ := by
  rw [resolve_eq]
  cases hfind : inputs.find? o.Misplaced with
  | none =>
    have hnone : ∀ input ∈ inputs, ¬o.Misplaced input := by simpa using hfind
    rw [and_iff_right hnone, Except.ok.injEq, eq_comm]
  | some input =>
    have hm : o.Misplaced input := by simpa using List.find?_some hfind
    constructor
    · intro h
      cases h
    · rintro ⟨hnone, -⟩
      exact absurd hm (hnone input (List.mem_of_find?_eq_some hfind))

theorem resolve_eq_error {inputs : List Input} {failure : Failure} :
    o.resolve failed inputs = .error failure ↔ ∃ input, inputs.find? o.Misplaced = some input ∧
      failure = .virtualDependency input.path failed := by
  rw [resolve_eq]
  cases inputs.find? o.Misplaced with
  | none => simp
  | some input => simp [eq_comm]

section Resolve

variable {inputs : List Input} {r : Responsible}

/-- Inputs are attributed unless one of them is misplaced. -/
theorem exists_resolve (h : ∀ path, .virtual path ∈ inputs → .artifact path ∉ o.directDeps) :
    ∃ r, o.resolve failed inputs = .ok r := by
  refine ⟨_, resolve_eq_ok.2 ⟨?_, rfl⟩⟩
  intro input hinput hm
  obtain ⟨path, hpath, hdirect⟩ := o.exists_misplaced_iff.1 ⟨input, hinput, hm⟩
  exact h path hpath hdirect

/-- The loss of artifacts is no defect. -/
theorem resolve_ne_error (ha : ∀ input ∈ inputs, ∃ a, input = .artifact a) (failure : Failure) :
    o.resolve failed inputs ≠ .error failure := by
  have hok : ∃ r, o.resolve failed inputs = .ok r := by
    apply exists_resolve
    intro path hpath
    cases ha _ hpath with
    | intro a hpath => cases hpath
  rcases hok with ⟨r, hr⟩
  rw [hr]
  exact nofun

/-- A failure names an input that is misplaced. -/
theorem exists_virtual_of_resolve {failure : Failure} (h : o.resolve failed inputs = .error failure) :
    ∃ path, .virtual path ∈ inputs ∧ .artifact path ∈ o.directDeps ∧
      failure = .virtualDependency path failed := by
  obtain ⟨input, hfind, rfl⟩ := resolve_eq_error.1 h
  have hm : o.Misplaced input := by simpa using List.find?_some hfind
  cases input with
  | artifact a => cases hm.1
  | virtual path => exact ⟨path, List.mem_of_find?_eq_some hfind, hm.2, rfl⟩

theorem not_misplaced_of_resolve (h : o.resolve failed inputs = .ok r) :
    ¬∃ path, .virtual path ∈ inputs ∧ .artifact path ∈ o.directDeps := by
  rw [← o.exists_misplaced_iff]
  rintro ⟨input, hinput, hm⟩
  exact (resolve_eq_ok.1 h).1 input hinput hm

theorem isDefect_of_resolve {failure : Failure} (h : o.resolve failed inputs = .error failure) :
    failure.isDefect := by
  obtain ⟨path, -, -, rfl⟩ := exists_virtual_of_resolve h
  rfl

theorem mem_resolve (h : o.resolve failed inputs = .ok r) {a : Artifact} :
    a ∈ r ↔ ∃ input ∈ inputs, o.attribution? input = some a := by
  rw [(resolve_eq_ok.1 h).2]
  simp [mem_foldl_assign]

/-- Only direct dependencies account for lost inputs. -/
theorem isDirect_of_resolve (h : o.resolve failed inputs = .ok r) {a : Artifact} (ha : a ∈ r) :
    o.isDirect a = true := by
  obtain ⟨input, -, hattribution⟩ := (mem_resolve h).1 ha
  exact isDirect_of_attribution? hattribution

/-- Lost artifacts and owners account for lost inputs, and nothing else does. -/
theorem origin_of_resolve (h : o.resolve failed inputs = .ok r) {a : Artifact} (ha : a ∈ r) :
    .artifact a ∈ inputs ∨
      ∃ member, o.collections.ownerOf member = some a ∨ o.runfiles.ownerOf member = some a := by
  obtain ⟨input, hinput, hattribution⟩ := (mem_resolve h).1 ha
  rcases origin_of_attribution? hattribution with rfl | howner
  · exact Or.inl hinput
  · exact Or.inr howner

/-- An artifact that the failed action depends on accounts for its own loss. -/
theorem mem_of_resolve (h : o.resolve failed inputs = .ok r) {a : Artifact}
    (hi : .artifact a ∈ inputs) (hd : a.node ∈ o.directDeps) : a ∈ r :=
  (mem_resolve h).2 ⟨_, hi, attribution?_of_mem hd⟩

end Resolve

/-- **Lost inputs and their owners.** Attribution fails exactly if a lost input is a direct dependency
and no artifact, and it names such an input then. Otherwise it gives the table that sends each artifact to
which some input is attributed to the set of those inputs: only direct dependencies are in it, an input
that is attributed at all is under one artifact only, no artifact comes without inputs, and the order of
the inputs plays no role. -/
theorem resolve_spec (o : Ownership) (failed : ActionKey) (inputs : List Input) :
    ((∃ failure, o.resolve failed inputs = .error failure) ↔
      ∃ path, .virtual path ∈ inputs ∧ .artifact path ∈ o.directDeps) ∧
    (∀ failure, o.resolve failed inputs = .error failure →
      ∃ path, .virtual path ∈ inputs ∧ .artifact path ∈ o.directDeps ∧
        failure = .virtualDependency path failed) ∧
    ∀ r, o.resolve failed inputs = .ok r →
      (∀ (a : Artifact) (s : Std.ExtTreeSet Input), r[a]? = some s ↔
        (∃ input ∈ inputs, o.attribution? input = some a) ∧
          ∀ input, input ∈ s ↔ input ∈ inputs ∧ o.attribution? input = some a) ∧
      (∀ a ∈ r, a.node ∈ o.directDeps) ∧
      (∀ input ∈ inputs, (o.attribution? input).isSome →
        ∃! a : Artifact, ∃ s : Std.ExtTreeSet Input, r[a]? = some s ∧ input ∈ s) ∧
      (∀ (a : Artifact) (s : Std.ExtTreeSet Input), r[a]? = some s → s ≠ ∅) ∧
      ∀ inputs', (∀ input, input ∈ inputs' ↔ input ∈ inputs) → o.resolve failed inputs' = .ok r := by
  refine ⟨?_, fun failure h => exists_virtual_of_resolve h, ?_⟩
  · constructor
    · rintro ⟨failure, h⟩
      obtain ⟨path, hpath, hdirect, -⟩ := exists_virtual_of_resolve h
      exact ⟨path, hpath, hdirect⟩
    · intro hm
      cases h : o.resolve failed inputs with
      | error failure => exact ⟨failure, rfl⟩
      | ok r => exact absurd hm (not_misplaced_of_resolve h)
  · intro r h
    obtain ⟨hm, htable⟩ := resolve_eq_ok.1 h
    have hentry : ∀ (a : Artifact) (s : Std.ExtTreeSet Input), r[a]? = some s ↔
        (∃ input ∈ inputs, o.attribution? input = some a) ∧
          ∀ input, input ∈ s ↔ input ∈ inputs ∧ o.attribution? input = some a := by
      intro a s
      rw [htable]
      exact getElem?_resolved
    refine ⟨hentry, fun a ha => isDirect_of_resolve h ha, ?_, ?_, ?_⟩
    · intro input hinput hsome
      obtain ⟨a, ha⟩ := Option.isSome_iff_exists.1 hsome
      obtain ⟨s, hs⟩ := Std.ExtTreeMap.mem_iff_isSome_getElem?.1 ((mem_resolve h).2 ⟨input, hinput, ha⟩)
        |> Option.isSome_iff_exists.1
      refine ⟨a, ⟨s, hs, (((hentry a s).1 hs).2 input).2 ⟨hinput, ha⟩⟩, ?_⟩
      rintro b ⟨t, ht, hmem⟩
      have hb := ((((hentry b t).1 ht).2 input).1 hmem).2
      exact Option.some.inj (hb.symm.trans ha)
    · intro a s hs hempty
      obtain ⟨⟨input, hinput, ha⟩, hmem⟩ := (hentry a s).1 hs
      have hin := (hmem input).2 ⟨hinput, ha⟩
      rw [hempty] at hin
      exact Std.ExtTreeSet.not_mem_empty hin
    · intro inputs' hsame
      apply resolve_eq_ok.2
      constructor
      · intro input hinput
        exact hm input ((hsame input).1 hinput)
      · rw [htable]
        exact foldl_assign_congr fun input => (hsame input).symm

end Rewinding.Ownership
