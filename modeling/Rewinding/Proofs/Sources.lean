import Rewinding.Proofs.Passes
import Rewinding.Proofs.Upstream

/-!
# Walks stay on what is made

On the graph of an accepted description, and for a loss that speaks of the graph's own artifacts, a
walk meets artifacts that are made and actions of the graph only (`Queries.Needs.made`): it starts
behind the check for sources, it leaves an action through inputs that are no sources, and whatever is
no source has makers in the graph. This has two consequences:

* no query of a walk fails (`planFor_known`);
* the only way for the node of a source into a plan is that an action wants it restarted along
  (`source_mem_nodes_iff_wanted`).
-/

namespace Rewinding

open Procedure Planning

/-! ### Losses of the graph's own artifacts -/

/-- The graph knows this artifact by its path. -/
def Graph.Owns (g : Graph) (a : Artifact) : Prop := g.artifacts[a.path]? = some a

instance (g : Graph) (a : Artifact) : Decidable (g.Owns a) :=
  inferInstanceAs (Decidable (g.artifacts[a.path]? = some a))

/-- A loss, and owners of runfiles, that speak of artifacts of the graph. Virtual inputs may have any
path. -/
structure Loss.Native (g : Graph) (runfiles : Owners) (loss : Loss) : Prop where
  inputs {a : Artifact} : .artifact a ∈ loss.inputs → g.Owns a
  owners {member : String} {a : Artifact} : loss.owners[member]? = some a → g.Owns a
  runfiles {member : String} {a : Artifact} : runfiles[member]? = some a → g.Owns a

theorem Loss.Native.owns_of_resolve {g : Graph} {runfiles : Owners} {loss : Loss}
    (hl : loss.Native g runfiles) {directDeps : Std.ExtTreeSet Node} {failed : ActionKey}
    {r : Responsible}
    (h : Ownership.resolve ⟨loss.owners, runfiles, directDeps⟩ failed loss.inputs = .ok r)
    {a : Artifact} (ha : a ∈ r) : g.Owns a := by
  obtain hi | ⟨member, ho | ho⟩ := Ownership.origin_of_resolve h ha
  · exact hl.inputs hi
  · exact hl.owners ho
  · exact hl.runfiles ho

/-- What a table holds after some entries have been put in was there before, or is one of them. -/
theorem mem_or_of_foldl_insert {κ ν : Type} [Ord κ] [Std.TransOrd κ] [Std.LawfulEqOrd κ]
    {entries : List (κ × ν)} {m : Std.ExtTreeMap κ ν} {k : κ} {v : ν}
    (h : (entries.foldl (fun m e => m.insert e.1 e.2) m)[k]? = some v) :
    (k, v) ∈ entries ∨ m[k]? = some v := by
  induction entries generalizing m with
  | nil => exact Or.inr h
  | cons e entries ih =>
    obtain h | h := ih h
    · exact Or.inl (List.mem_cons_of_mem _ h)
    rw [Std.ExtTreeMap.getElem?_insert] at h
    split at h
    case isTrue he =>
      cases h
      obtain rfl := Std.LawfulEqCmp.compare_eq_iff_eq.1 he
      exact Or.inl List.mem_cons_self
    case isFalse => exact Or.inr h

/-! ### What is made -/

/-- An artifact of the description that is no source. -/
structure Config.Made (c : Config) (a : Artifact) : Prop where
  artifactFor : c.artifactFor a.path = a
  isSource : a.isSource = false

namespace Graph

variable {c : Config}

theorem getElem?_artifacts_ofConfig (path : String) : (ofConfig c).artifacts[path]? =
    if path ∈ c.paths then some (c.artifactFor path) else none := by
  have hpairs : c.paths.map (fun path => (path, c.artifactFor path)) =
      c.paths.filterMap fun path => (some (c.artifactFor path)).map fun a => (path, a) := by
    rw [← List.filterMap_eq_map]
    rfl
  unfold ofConfig
  simp only [hpairs]
  exact getElem?_ofList_filterMap c.nodup_paths (fun path => some (c.artifactFor path)) path

theorem owns_ofConfig {a : Artifact} :
    (ofConfig c).Owns a ↔ a.path ∈ c.paths ∧ c.artifactFor a.path = a := by
  unfold Owns
  rw [getElem?_artifacts_ofConfig]
  split
  case isTrue hp => simp [hp]
  case isFalse hp => simp [hp]

/-- What owns a member is declared with its kind, and so it is an artifact of the graph. -/
theorem owns_of_ownersOf {kind : ArtifactKind} {member : String} {a : Artifact}
    (h : (ownersOf c kind)[member]? = some a) : (ofConfig c).Owns a ∧ a.kind = kind := by
  obtain hmem | hmem := mem_or_of_foldl_insert h
  case inr => simp at hmem
  obtain ⟨⟨path, declared⟩, hd, hm⟩ := List.mem_flatMap.1 hmem
  have hd := Std.ExtTreeMap.mem_toList_iff_getElem?_eq_some.1 hd
  simp only at hm
  split at hm
  case isFalse => cases hm
  case isTrue hkind =>
    obtain ⟨_, -, he⟩ := List.mem_map.1 hm
    cases he
    refine ⟨owns_ofConfig.2 ⟨Config.mem_paths.2 (Or.inl ?_), ?_⟩, rfl⟩
    · exact mem_iff_exists_getElem?.2 ⟨_, hd⟩
    · unfold Config.artifactFor
      rw [hd]
      exact congrArg (Artifact.mk path) hkind

end Graph

/-- A loss with the owners of the graph speaks of its artifacts if the lost ones are of the graph. -/
theorem Loss.native_ofConfig {c : Config} {loss : Loss} (ho : loss.owners = (Graph.ofConfig c).treeOwners)
    (hi : ∀ input ∈ loss.inputs, ∀ a ∈ input.artifact?, (Graph.ofConfig c).Owns a) :
    loss.Native (.ofConfig c) (Graph.ofConfig c).runfilesOwners where
  inputs h := hi _ h _ rfl
  owners h := (Graph.owns_of_ownersOf (ho ▸ h)).1
  runfiles h := (Graph.owns_of_ownersOf h).1

variable {d : Description} {c : Config}

/-- Whatever is no source has makers. -/
theorem Config.Made.exists_producersOf (hd : d.validate = .ok c) {a : Artifact} (ha : c.Made a) :
    ∃ producers, c.producersOf a.path = some producers := by
  obtain ⟨-, -, -, -, -, hmembers, -⟩ := Description.checks_of_validate hd
  have hsound := (exists_checkArtifacts_iff.1 hmembers).1
  have hmade : a.path ∈ c.makers ∨ a.path ∈ c.expansions := by
    have hkind := ha.isSource
    rw [← ha.artifactFor] at hkind
    unfold Config.artifactFor at hkind
    split at hkind
    case h_1 declared hdeclared =>
      refine (hsound a.path declared hdeclared).1 ?_
      simpa [Artifact.isSource] using hkind
    case h_2 =>
      refine Or.inl (Std.ExtTreeMap.mem_iff_isSome_getElem?.2 ?_)
      simpa [Artifact.isSource, producerOf] using hkind
  unfold producersOf producerOf expansionOf
  cases hm : c.makers[a.path]? with
  | some k => exact ⟨_, rfl⟩
  | none =>
    obtain hin | hin := hmade
    · obtain ⟨k, hk⟩ := mem_iff_exists_getElem?.1 hin
      cases hm.symm.trans hk
    · obtain ⟨keys, hkeys⟩ := mem_iff_exists_getElem?.1 hin
      exact ⟨_, by rw [hkeys]; rfl⟩

/-- It is known whether the makers of what is made are done. -/
theorem Config.Made.exists_discover (hd : d.validate = .ok c) {a : Artifact} (ha : c.Made a)
    (e : Evaluation) : ∃ found, e.discover (.ofConfig c) a = .ok found := by
  obtain ⟨producers, hp⟩ := ha.exists_producersOf hd
  unfold Evaluation.discover
  rw [Graph.getElem?_producers_ofConfig,
    if_pos ((Description.accepted_of_validate hd).mem_paths_of_producersOf hp), hp]
  exact ⟨_, rfl⟩

/-! ### What a walk meets -/

section Needs

variable {b : Build} {failed : ActionKey} {lost : List Artifact}

/-- From what is made a walk comes to what is made, by actions of the graph. -/
theorem Queries.Needs.made (hd : d.validate = .ok c) (hlost : ∀ a ∈ lost, c.Made a)
    {x : Artifact ⊕ ActionKey} (h : (b.queries (.ofConfig c)).Needs failed lost x) :
    match x with
    | .inl a => c.Made a
    | .inr k => k ∈ c.actions := by
  induction h with
  | lost ha => exact hlost _ ha
  | producer _ hp hk _ =>
    obtain ⟨hp, -⟩ := Evaluation.discover_eq_some hp
    have hmaker := Config.mem_makersAt.2 ⟨_, hp, hk⟩
    exact (Description.accepted_of_validate hd).mem_actions_of_mem_makersAt hmaker
  | @input k action i _ _ hl _ hi _ =>
    have hl : (Graph.ofConfig c).lookup k = .ok action := hl
    obtain ⟨declared, -, ha⟩ := Graph.exists_of_getElem?_actions (Graph.lookup_eq_ok.1 hl)
    rw [ha] at hi
    obtain ⟨path, -, hs, rfl⟩ := Graph.mem_derivedInputs_actionOf.1 hi
    exact ⟨by rw [c.path_artifactFor], hs⟩

/-- Only a cancellation ends such a walk early. -/
theorem Queries.Faulty.eq_interrupted (hd : d.validate = .ok c) (hlost : ∀ a ∈ lost, c.Made a)
    {stop : Stop} (h : (b.queries (.ofConfig c)).Faulty failed lost stop) :
    b.interrupted = true ∧ stop = .failure .interrupted := by
  cases h with
  | cancelled hc => exact ⟨hc, rfl⟩
  | @undiscovered a failure ha hf =>
    obtain ⟨found, hfound⟩ := (ha.made hd hlost).exists_discover hd b.evaluation
    cases hfound.symm.trans hf
  | @unfound k failure hk hf =>
    obtain ⟨hn, -⟩ := Graph.lookup_eq_error.1 hf
    exact absurd (Graph.mem_actions_ofConfig.2 (hk.made hd hlost)) hn

end Needs

/-! ### Planning -/

section Planned

variable {reporter : Reporter} {failed : Action} {key : ActionKey} {directDeps : Std.ExtTreeSet Node}
  {loss : Loss} {runfiles : Owners} {b b' : Build} {r : Responsible}

theorem Loss.Native.made (hl : loss.Native (.ofConfig c) runfiles)
    (hr : Ownership.resolve ⟨loss.owners, runfiles, directDeps⟩ failed.key loss.inputs = .ok r)
    (hs : (Planning.owners r).any Artifact.isSource = false) :
    ∀ a ∈ Planning.owners r, c.Made a := by
  intro a ha
  refine ⟨(Graph.owns_ofConfig.1 (hl.owns_of_resolve hr (mem_owners.1 ha))).2, ?_⟩
  simpa using List.any_eq_false.1 hs a ha

theorem keyed_queries (b : Build) : (b.queries (.ofConfig c)).Keyed :=
  fun _ _ h => Graph.key_of_getElem?_actions (Graph.lookup_eq_ok.1 h)

theorem Build.queries_recordEach (b : Build) (g : Graph) (key : ActionKey) (digests : List String) :
    (b.recordEach key digests).queries g = b.queries g := by
  have hsame := b.sameButMemory_recordEach key digests
  unfold queries
  rw [hsame.evaluation, hsame.interrupted]

/-- A plan for a loss of the graph's own artifacts is that of a finished walk from what is made. -/
theorem exists_finished (hl : loss.Native (.ofConfig c) runfiles) {plan : Plan}
    (h : Planned (.ofConfig c) reporter failed key directDeps loss runfiles b (.ok plan) b') :
    ∃ lost builder, plan = builder.plan ∧ builder.failed = key ∧ (∀ a ∈ lost, c.Made a) ∧
      Walk.Finished (b.queries (.ofConfig c)) lost lost builder := by
  cases h with
  | @planned r builder _ hr hs hwalk =>
    have hsteady := Build.steady_world (.ofConfig c) reporter (b.recordEach key loss.digests)
    rw [Build.queries_recordEach] at hsteady
    obtain ⟨-, hfin⟩ := Walk.yields_rewindAll hsteady (keyed_queries b) key (owners r) _ rfl
    rw [hwalk] at hfin
    obtain ⟨hfin, hfailed⟩ := hfin
    exact ⟨owners r, builder, rfl, hfailed, hl.made hr hs, hfin⟩

/-- A walk for a loss of the graph's own artifacts that ends early was cancelled. -/
theorem interrupted_of_stopped (hd : d.validate = .ok c) (hl : loss.Native (.ofConfig c) runfiles)
    (hr : Ownership.resolve ⟨loss.owners, runfiles, directDeps⟩ failed.key loss.inputs = .ok r)
    (hs : (Planning.owners r).any Artifact.isSource = false) {stop : Stop} {builder : Builder}
    (hwalk : exec (Build.world (.ofConfig c) reporter)
      (Walk.rewindAll (Builder.start key) (Planning.owners r)) (b.recordEach key loss.digests) =
      (.error (stop, builder), b.recordEach key loss.digests)) :
    b.interrupted = true ∧ stop = .failure .interrupted := by
  have hsteady := Build.steady_world (.ofConfig c) reporter (b.recordEach key loss.digests)
  rw [Build.queries_recordEach] at hsteady
  obtain ⟨-, hfaulty⟩ := Walk.yields_rewindAll hsteady (keyed_queries b) key (Planning.owners r) _ rfl
  rw [hwalk] at hfaulty
  exact Queries.Faulty.eq_interrupted hd (hl.made hr hs) hfaulty

/-- Planning for a loss of the graph's own artifacts ends early for good reasons only: the loss, or a
cancellation. -/
theorem failure_of_planned (hd : d.validate = .ok c) (hl : loss.Native (.ofConfig c) runfiles)
    {failure : Failure} (h : Planned (.ofConfig c) reporter failed key directDeps loss runfiles b
      (.error (.failure failure)) b') :
    (∃ e, failure = .execution e) ∨ failure.isDefect = true ∨
      failure = .interrupted ∧ b.interrupted = true := by
  generalize hstop : Stop.failure failure = stop at h
  have hreport : ∀ {message : String} {reason : Failure},
      .failure failure = reporter.stop message reason → failure = reason := by
    intro message reason h
    unfold Reporter.stop at h
    cases hc : reporter.crash? message <;> rw [hc] at h <;> cases h
    rfl
  cases h with
  | repeated _ _ _ => exact Or.inl ⟨_, hreport hstop⟩
  | defect _ _ hdefect => exact Or.inr (Or.inl (hreport hstop ▸ hdefect))
  | sourceLost _ _ _ => exact Or.inl ⟨_, Stop.failure.inj hstop⟩
  | stopped _ _ hr hs hwalk =>
    obtain ⟨hi, rfl⟩ := interrupted_of_stopped hd hl hr hs hwalk
    exact Or.inr (Or.inr ⟨Stop.failure.inj hstop, hi⟩)

/-- **No query of planning fails.** Whatever is done, remembered or cancelled, and whichever action
failed: where the lost artifacts and all owners are the graph's own, planning does not come across an
artifact or an action that the graph does not know. If it fails, that is for the loss itself, or
because the build was cancelled. -/
theorem planFor_known (hd : d.validate = .ok c) (hl : loss.Native (.ofConfig c) runfiles)
    (reporter : Reporter) (b : Build) (failed : Action) (key : ActionKey)
    (directDeps : Std.ExtTreeSet Node) {result : Except Stop Plan}
    (hr : result = (exec (Build.world (.ofConfig c) reporter)
      (planFor failed key directDeps loss runfiles) b).1) :
    (∀ path, result ≠ .error (.failure (.unknownArtifact path))) ∧
    (∀ k, result ≠ .error (.failure (.actionNotFound k))) ∧
    ∀ failure, result = .error (.failure failure) → (∃ e, failure = .execution e) ∨
      failure.isDefect = true ∨ failure = .interrupted ∧ b.interrupted = true := by
  have hend := @planned_planFor (.ofConfig c) reporter failed key directDeps loss runfiles b
  rw [← hr] at hend
  have hfailure : ∀ failure, result = .error (.failure failure) → (∃ e, failure = .execution e) ∨
      failure.isDefect = true ∨ failure = .interrupted ∧ b.interrupted = true := by
    rintro failure rfl
    exact failure_of_planned hd hl hend
  refine ⟨fun path h => ?_, fun k h => ?_, hfailure⟩
  · obtain ⟨e, he⟩ | he | ⟨he, -⟩ := hfailure _ h <;> cases he
  · obtain ⟨e, he⟩ | he | ⟨he, -⟩ := hfailure _ h <;> cases he

end Planned

/-- The lost artifact's maker passes on a tree, and one of the two actions that its template expanded to
passes on something else. -/
def Description.passing : Description where
  artifacts := Std.ExtTreeMap.ofList
    [("out/t", ({ kind := .tree, members := ["out/t/m"], expandedActions := ["//q#0", "//q#1"] } :
      ArtifactSection))]
  actions := Std.ExtTreeMap.ofList
    [("//p#0", { inputs := ["src/p", "out/t"], outputs := ["out/p"], propagates := true }),
     ("//q#0", { inputs := ["out/s"], propagates := true }),
     ("//q#1", { inputs := ["src/q"] }),
     ("//s#0", { inputs := ["src/s"], outputs := ["out/s"] }),
     ("//f#0", ({ inputs := ["out/p", "out/t"], outputs := ["out/f"] } : ActionSection))]

/-- The loss of a derived artifact, and of a member of the tree. -/
def Loss.passing : Loss where
  message := ""
  lost := Std.ExtTreeMap.ofList
    [("1", .artifact ⟨"out/p", .derived⟩), ("2", (.virtual "out/t/m" : Input))]
  owners := (Graph.ofConfig Description.passing.accepted).treeOwners

/-- The build in which that happens. One node is not done, and other losses are remembered. -/
def Build.passing : Build :=
  ((Session.ready Description.passing.accepted .log).build.invalidate (.action ⟨"//s", 0⟩)).record
    ⟨⟨"//f", 0⟩, "3"⟩

theorem native_passing :
    Loss.passing.Native (.ofConfig Description.passing.accepted)
      (Graph.ofConfig Description.passing.accepted).runfilesOwners :=
  Loss.native_ofConfig rfl (by decide +kernel)

theorem planFor_known_passing : ∃ c failed result,
    Description.passing.validate = .ok c ∧
    Loss.passing.Native (.ofConfig c) (Graph.ofConfig c).runfilesOwners ∧
    (Graph.ofConfig c).actions[(⟨"//f", 0⟩ : ActionKey)]? = some failed ∧
    result = (exec (Build.world (.ofConfig c) .log) (planFor failed ⟨"//f", 0⟩ failed.directDeps
      .passing (Graph.ofConfig c).runfilesOwners) .passing).1 ∧
    (∀ path, result ≠ .error (.failure (.unknownArtifact path))) ∧
    (∀ k, result ≠ .error (.failure (.actionNotFound k))) ∧
    ∀ failure, result = .error (.failure failure) → (∃ e, failure = .execution e) ∨
      failure.isDefect = true ∨ failure = .interrupted ∧ Build.passing.interrupted = true := by
  have hd : Description.passing.validate = .ok Description.passing.accepted :=
    Description.validate_eq_accepted (by decide +kernel)
  obtain ⟨failed, hf⟩ : ∃ failed, (Graph.ofConfig Description.passing.accepted).actions[
      (⟨"//f", 0⟩ : ActionKey)]? = some failed := Option.isSome_iff_exists.1 (by decide +kernel)
  exact ⟨_, failed, _, hd, native_passing, hf, rfl,
    planFor_known hd native_passing .log .passing failed ⟨"//f", 0⟩ failed.directDeps rfl⟩

/-! ### Sources in plans -/

section Plans

variable {reporter : Reporter} {failed : Action} {key : ActionKey} {directDeps : Std.ExtTreeSet Node}
  {loss : Loss} {runfiles : Owners} {b : Build}

/-- What a section names is an artifact of the graph, if the action wants it along as one. -/
theorem mem_rewindDeps_of_wanted {k : ActionKey} {declared : ActionSection}
    {artifacts : Std.ExtTreeMap String Artifact} {path : String}
    (h : .artifact path ∈ (Graph.actionOf c artifacts k declared).wanted) :
    path ∈ declared.rewindDeps := by
  rw [Graph.wanted_actionOf] at h
  obtain ⟨dep, hdep, ⟨k, -, he⟩ | ⟨-, ⟨-, he⟩ | ⟨-, he⟩⟩⟩ := Graph.mem_rewindDeps.1 h
  · cases he
  · exact Node.artifact.inj he ▸ hdep
  · cases he

/-- **A source gets into a plan only along with an action that wants it.** The node of a source is
restarted exactly if an action of the plan other than the failed one wants it along, and so never
where no action of the graph names a source. -/
theorem source_mem_nodes_iff_wanted (hd : d.validate = .ok c)
    (hl : loss.Native (.ofConfig c) runfiles) {plan : Plan}
    (h : (exec (Build.world (.ofConfig c) reporter)
      (planFor failed key directDeps loss runfiles) b).1 = .ok plan)
    {path : String} (hs : (c.artifactFor path).isSource = true) :
    (.artifact path ∈ plan.restart.nodes ↔
      ∃ action ∈ plan.additional, .artifact path ∈ action.wanted) ∧
    ((∀ (k : ActionKey) declared, c.actions[k]? = some declared → path ∉ declared.rewindDeps) →
      .artifact path ∉ plan.restart.nodes) := by
  have hend := @planned_planFor (.ofConfig c) reporter failed key directDeps loss runfiles b
  rw [h] at hend
  obtain ⟨lost, builder, rfl, rfl, hlost, hfin⟩ := exists_finished hl hend
  have hiff : .artifact path ∈ builder.plan.restart.nodes ↔
      ∃ action ∈ builder.noted, .artifact path ∈ action.wanted := by
    rw [Builder.mem_nodes_plan]
    constructor
    · rintro (he | hm)
      · cases he
      obtain he | ⟨a, ha, he⟩ | ⟨action, ha, he | hw⟩ := hfin.grounded.marked hm
      · cases he
      -- a source is not made
      · have hmade : c.Made a := ha.made hd hlost
        obtain rfl := Node.artifact.inj he
        rw [hmade.artifactFor, hmade.isSource] at hs
        cases hs
      · cases he
      · exact ⟨action, ha, hw⟩
    · rintro ⟨action, ha, hw⟩
      exact Or.inr ((hfin.settles ha).wanted hw)
  refine ⟨hiff, fun hnone hm => ?_⟩
  obtain ⟨action, ha, hw⟩ := hiff.1 hm
  obtain ⟨-, -, -, _, hlookup⟩ := hfin.grounded.noted ha
  have hlookup : (Graph.ofConfig c).lookup action.key = .ok ⟨action, _⟩ := hlookup
  obtain ⟨declared, ht, he⟩ := Graph.exists_of_getElem?_actions (Graph.lookup_eq_ok.1 hlookup)
  simp only at he
  rw [he] at hw
  exact hnone _ declared ht (mem_rewindDeps_of_wanted hw)

end Plans

/-- The maker of what is lost names the source that it reads. -/
def Description.naming : Description where
  actions := Std.ExtTreeMap.ofList
    [("//p#0", { inputs := ["src/a"], outputs := ["out/p"], rewindDeps := ["src/a"] }),
     ("//f#0", ({ inputs := ["out/p"], outputs := ["out/f"] } : ActionSection))]

def Loss.naming : Loss where
  message := ""
  lost := Std.ExtTreeMap.ofList [("1", (.artifact ⟨"out/p", .derived⟩ : Input))]
  owners := (Graph.ofConfig Description.naming.accepted).treeOwners

def Build.naming : Build := (Session.ready Description.naming.accepted .log).build

theorem native_naming :
    Loss.naming.Native (.ofConfig Description.naming.accepted)
      (Graph.ofConfig Description.naming.accepted).runfilesOwners :=
  Loss.native_ofConfig rfl (by decide +kernel)

theorem validate_naming : Description.naming.validate = .ok Description.naming.accepted :=
  Description.validate_eq_accepted (by decide +kernel)

theorem exists_plan_naming : ∃ failed plan,
    (Graph.ofConfig Description.naming.accepted).actions[(⟨"//f", 0⟩ : ActionKey)]? = some failed ∧
    (exec (Build.world (.ofConfig Description.naming.accepted) .log) (planFor failed ⟨"//f", 0⟩
      failed.directDeps .naming (Graph.ofConfig Description.naming.accepted).runfilesOwners)
      .naming).1 = .ok plan ∧
    plan.restart.nodes = [.action ⟨"//f", 0⟩, .artifact "out/p", .artifact "src/a", .action ⟨"//p", 0⟩] := by
  have hnodes : ((Graph.ofConfig Description.naming.accepted).actions[(⟨"//f", 0⟩ : ActionKey)]?.bind
      fun failed => (exec (Build.world (.ofConfig Description.naming.accepted) .log) (planFor failed
        ⟨"//f", 0⟩ failed.directDeps .naming
        (Graph.ofConfig Description.naming.accepted).runfilesOwners) .naming).1.toOption.map
        fun plan => plan.restart.nodes) =
      some [.action ⟨"//f", 0⟩, .artifact "out/p", .artifact "src/a", .action ⟨"//p", 0⟩] := by
    decide +kernel
  obtain ⟨failed, hf, h⟩ := Option.bind_eq_some_iff.1 hnodes
  obtain ⟨plan, hp, hnodes⟩ := Option.map_eq_some_iff.1 h
  exact ⟨failed, plan, hf, eq_ok_of_toOption hp, hnodes⟩

/-- The source is restarted along with its reader. -/
theorem naming_restarts_source : ∃ c failed plan,
    Description.naming.validate = .ok c ∧
    Loss.naming.Native (.ofConfig c) (Graph.ofConfig c).runfilesOwners ∧
    (Graph.ofConfig c).actions[(⟨"//f", 0⟩ : ActionKey)]? = some failed ∧
    (exec (Build.world (.ofConfig c) .log) (planFor failed ⟨"//f", 0⟩ failed.directDeps
      .naming (Graph.ofConfig c).runfilesOwners) .naming).1 = .ok plan ∧
    (c.artifactFor "src/a").isSource = true ∧ .artifact "src/a" ∈ plan.restart.nodes := by
  obtain ⟨failed, plan, hf, hplan, hnodes⟩ := exists_plan_naming
  refine ⟨_, failed, plan, validate_naming, native_naming, hf, hplan, by decide +kernel, ?_⟩
  rw [hnodes]
  decide

theorem source_mem_nodes_iff_wanted_naming : ∃ c failed plan,
    Description.naming.validate = .ok c ∧
    Loss.naming.Native (.ofConfig c) (Graph.ofConfig c).runfilesOwners ∧
    (Graph.ofConfig c).actions[(⟨"//f", 0⟩ : ActionKey)]? = some failed ∧
    (exec (Build.world (.ofConfig c) .log) (planFor failed ⟨"//f", 0⟩ failed.directDeps
      .naming (Graph.ofConfig c).runfilesOwners) .naming).1 = .ok plan ∧
    (c.artifactFor "src/a").isSource = true ∧
    (.artifact "src/a" ∈ plan.restart.nodes ↔
      ∃ action ∈ plan.additional, .artifact "src/a" ∈ action.wanted) ∧
    ((∀ (k : ActionKey) declared, c.actions[k]? = some declared → "src/a" ∉ declared.rewindDeps) →
      .artifact "src/a" ∉ plan.restart.nodes) := by
  obtain ⟨failed, plan, hf, hplan, -⟩ := exists_plan_naming
  have hs : (Description.naming.accepted.artifactFor "src/a").isSource = true := by decide +kernel
  exact ⟨_, failed, plan, validate_naming, native_naming, hf, hplan, hs,
    source_mem_nodes_iff_wanted validate_naming native_naming hplan hs⟩

end Rewinding
