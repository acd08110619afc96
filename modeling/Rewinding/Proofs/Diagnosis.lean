import Rewinding.Diagnosis
import Rewinding.Proofs.Effect
import Rewinding.Proofs.Errand
import Rewinding.Proofs.Freshness
import Rewinding.Proofs.Nodes
import Rewinding.Proofs.Validation

/-!
# What a diagnosis answers

A diagnosis rewinds one loss in a session in which everything is done and nothing has gone wrong yet
(`Session.Complete`). There the loss of a source that the action reads is the only thing that can
go wrong (`handle_complete`), and a rewind finds every node of its plan done and every execution
remembered. `answer_of_load` says what that means for the question that was asked.
-/

namespace Rewinding

open Planning

/-! ### Sessions in which everything is done -/

/-- A session on the graph of `c` at the beginning of a build, with every node done and every action
executed. -/
structure Session.Complete (s : Session) (c : Config) : Prop where
  graph : s.graph = .ofConfig c
  interrupted : s.build.interrupted = false
  history : s.build.history = ∅
  attempts (k : ActionKey) : s.build.attemptsOf k = 0
  maxRewinds : 1 ≤ s.maxRewinds
  isDone {n : Node} : n ∈ (Graph.ofConfig c).nodes → s.build.evaluation.isDone n = true
  cached {k : ActionKey} : k ∈ c.actions → k ∈ s.build.cache

variable {d : Description} {c : Config}

/-! #### The nodes of plans -/

/-- What is made is an artifact of the graph. -/
theorem Config.Made.mem_paths (hd : d.validate = .ok c) {a : Artifact} (ha : c.Made a) :
    a.path ∈ c.paths := by
  obtain ⟨producers, hp⟩ := ha.exists_producersOf hd
  exact (Description.accepted_of_validate hd).mem_paths_of_producersOf hp

/-- What an action wants along is a node of the graph. -/
theorem Graph.mem_nodes_of_wanted {k : ActionKey} {action : Action}
    (h : (ofConfig c).actions[k]? = some action) {n : Node} (hn : n ∈ action.wanted) :
    n ∈ (ofConfig c).nodes := by
  obtain ⟨declared, ht, rfl⟩ := exists_of_getElem?_actions h
  rw [wanted_actionOf] at hn
  exact mem_nodes.2 (Or.inr (Or.inr (mem_extraNodes_ofConfig.2 ⟨k, declared, ht, hn⟩)))

/-- A plan for a loss of the graph's own artifacts restarts nodes of the graph, and evicts actions of
the graph. -/
theorem Walk.Finished.mem_graph (hd : d.validate = .ok c) {b : Build} {lost : List Artifact}
    {builder : Builder} (h : Walk.Finished (b.queries (.ofConfig c)) lost lost builder)
    (hlost : ∀ a ∈ lost, c.Made a) (hfailed : builder.failed ∈ c.actions) :
    (∀ n ∈ builder.plan.restart.nodes, n ∈ (Graph.ofConfig c).nodes) ∧
      ∀ k ∈ builder.plan.additionalKeys, k ∈ c.actions := by
  have haction : ∀ action ∈ builder.noted,
      (Graph.ofConfig c).actions[action.key]? = some action ∧ action.key ∈ c.actions := by
    intro action ha
    obtain ⟨-, -, hneeds, _, hl⟩ := h.grounded.noted ha
    exact ⟨Graph.lookup_eq_ok.1 hl, hneeds.made hd hlost⟩
  constructor
  · intro n hn
    obtain rfl | hm := Builder.mem_nodes_plan.1 hn
    · exact Graph.action_mem_nodes hfailed
    obtain rfl | ⟨a, ha, rfl⟩ | ⟨action, ha, rfl | hw⟩ := h.grounded.marked hm
    · exact Graph.action_mem_nodes hfailed
    · have hmade : c.Made a := ha.made hd hlost
      refine Graph.mem_nodes.2 (Or.inl ⟨a.path, ?_, rfl⟩)
      exact Graph.mem_artifacts_ofConfig.2 (hmade.mem_paths hd)
    · exact Graph.action_mem_nodes (haction action ha).2
    · exact Graph.mem_nodes_of_wanted (haction action ha).1 hw
  · intro k hk
    obtain ⟨action, ha, rfl⟩ := List.mem_map.1 hk
    exact (haction action ha).2

/-! #### Handling a loss -/

section Complete

variable {s : Session} {key : ActionKey} {failed : Action} {loss : Loss} {r : Responsible}

theorem Session.Complete.mem_actions (hs : s.Complete c) (h : key ∈ s.graph.actions) :
    key ∈ c.actions := by
  rw [hs.graph] at h
  exact Graph.mem_actions_ofConfig.1 h

/-- The plan of a rewind is that of a finished walk from what is made. -/
theorem Session.Complete.exists_finished (hs : s.Complete c)
    (hl : loss.Native (.ofConfig c) (Graph.ofConfig c).runfilesOwners) {o : Outcome}
    (h : (s.handle key loss).1 = .ok o) :
    ∃ lost builder, o.plan = builder.plan ∧ builder.failed = key ∧ (∀ a ∈ lost, c.Made a) ∧
      Walk.Finished (s.build.queries (.ofConfig c)) lost lost builder := by
  have hend := s.handled_handle key loss
  rw [h] at hend
  generalize (s.handle key loss).2.build = b at hend
  cases hend with
  | done _ _ _ hp =>
    rw [hs.graph] at hp
    -- counting the attempt changes nothing that a walk asks about
    have hsame : (s.build.countAttempt key).queries (.ofConfig c) = s.build.queries (.ofConfig c) := rfl
    rw [← hsame]
    exact Rewinding.exists_finished hl hp

/-- A rewind counts all that its plan names, where all of that was there. -/
theorem Session.Complete.counts (hd : d.validate = .ok c) (hs : s.Complete c)
    (hl : loss.Native (.ofConfig c) (Graph.ofConfig c).runfilesOwners) {o : Outcome}
    (h : (s.handle key loss).1 = .ok o) : o.attempt = 1 ∧ o.invalidated = o.plan.restart.size ∧
      o.evicted = 1 + o.plan.additional.length := by
  have ha := Session.applied_handle h
  have hkey := hs.mem_actions ha.known
  obtain ⟨lost, builder, hplan, rfl, hlost, hfin⟩ := hs.exists_finished hl h
  obtain ⟨hnodes, hkeys⟩ := hfin.mem_graph hd hlost hkey
  rw [← hplan] at hnodes hkeys
  have hdone : ∀ n ∈ o.plan.restart.nodes.toFinset, s.build.evaluation.isDone n = true := by
    intro n hn
    exact hs.isDone (hnodes n (List.mem_toFinset.1 hn))
  have hcached : ∀ k ∈ (builder.failed :: o.plan.additionalKeys).toFinset, k ∈ s.build.cache := by
    intro k hk
    obtain rfl | hk := List.mem_cons.1 (List.mem_toFinset.1 hk)
    · exact hs.cached hkey
    · exact hs.cached (hkeys k hk)
  -- no action is noted twice, and the failed one is not noted
  have hnodup : (builder.failed :: o.plan.additionalKeys).Nodup := by
    rw [hplan, List.nodup_cons]
    refine ⟨fun hk => ?_, hfin.grounded.nodup⟩
    obtain ⟨action, hn, he⟩ := List.mem_map.1 hk
    exact (hfin.grounded.noted hn).2.1 he
  refine ⟨?_, ?_, ?_⟩
  · rw [ha.outcome]
    show s.build.attemptsOf builder.failed + 1 = 1
    rw [hs.attempts]
    rfl
  · rw [ha.invalidated, Finset.filter_true_of_mem hdone, List.toFinset_card_of_nodup ha.nodup]
    show o.plan.restart.others.toList.length + 1 = o.plan.restart.others.size + 1
    rw [Std.ExtTreeSet.length_toList]
  · rw [ha.evicted, Finset.filter_true_of_mem hcached, List.toFinset_card_of_nodup hnodup]
    show (o.plan.additional.map Action.key).length + 1 = _
    rw [List.length_map, Nat.add_comm]

/-- The loss of a source is the only thing that goes wrong. -/
theorem handle_complete (hd : d.validate = .ok c) (hs : s.Complete c)
    (hf : s.graph.actions[key]? = some failed)
    (hl : loss.Native (.ofConfig c) (Graph.ofConfig c).runfilesOwners)
    (hr : Ownership.resolve ⟨loss.owners, (Graph.ofConfig c).runfilesOwners, failed.directDeps⟩ key
      loss.inputs = .ok r) :
    ((owners r).any Artifact.isSource = true → (s.handle key loss).1 =
      .error (.failure (failureOf failed key .sourceLost loss))) ∧
    ((owners r).any Artifact.isSource = false → ∃ o, (s.handle key loss).1 = .ok o) := by
  have hkey : failed.key = key := by
    rw [hs.graph] at hf
    exact Graph.key_of_getElem?_actions hf
  rw [← hkey] at hr
  have hfresh : ∀ l : LossRecord, l ∉ (s.build.countAttempt key).history := by
    intro l hm
    have hm : l ∈ s.build.history := hm
    rw [hs.history] at hm
    exact Std.ExtTreeSet.not_mem_empty hm
  have hend := s.handled_handle key loss
  generalize (s.handle key loss).1 = result at hend ⊢
  generalize (s.handle key loss).2.build = b at hend
  cases hend with
  | cancelled hi =>
    rw [hs.interrupted] at hi
    cases hi
  | unknown _ hu => exact absurd (mem_iff_exists_getElem?.2 ⟨_, hf⟩) hu
  | exceeded _ _ hm =>
    rw [hs.attempts] at hm
    exact absurd hs.maxRewinds (UInt32.not_le.2 hm)
  | @unplanned failed' stop b _ hf' _ hp =>
    obtain rfl := Option.some.inj (hf.symm.trans hf')
    rw [hs.graph] at hp
    cases hp with
    | repeated _ _ hm => exact absurd hm (hfresh _)
    | defect _ hdefect _ => cases hdefect.symm.trans hr
    | sourceLost _ hr' hs' =>
      obtain rfl := Except.ok.inj (hr.symm.trans hr')
      exact ⟨fun _ => rfl, fun hn => absurd (hs'.symm.trans hn) nofun⟩
    | stopped _ _ hr' hs' hwalk =>
      obtain ⟨hi, -⟩ := interrupted_of_stopped hd hl hr' hs' hwalk
      have hi : s.build.interrupted = true := hi
      rw [hs.interrupted] at hi
      cases hi
  | @done failed' plan b _ hf' _ hp =>
    obtain rfl := Option.some.inj (hf.symm.trans hf')
    rw [hs.graph] at hp
    cases hp with
    | planned _ hr' hs' _ =>
      obtain rfl := Except.ok.inj (hr.symm.trans hr')
      exact ⟨fun hy => absurd (hs'.symm.trans hy) nofun, fun _ => ⟨_, rfl⟩⟩

end Complete

/-! ### Lost paths and sources -/

theorem Graph.mem_directDeps_actionOf {artifacts : Std.ExtTreeMap String Artifact} {k : ActionKey}
    {declared : ActionSection} {path : String} :
    .artifact path ∈ (actionOf c artifacts k declared).directDeps ↔ path ∈ declared.inputs := by
  constructor
  · exact fun h => path_mem_inputs_of_directDeps (a := ⟨path, .source⟩) h
  · intro h
    unfold Action.directDeps actionOf
    rw [Std.ExtTreeSet.mem_ofList, List.contains_iff_mem, List.mem_map]
    refine ⟨c.artifactFor path, List.mem_map_of_mem h, ?_⟩
    rw [Artifact.node, c.path_artifactFor]

section Lost

variable {key : ActionKey} {declared : ActionSection} {loss : Loss} {lost : List String}

/-- Every input of an action is an artifact of the graph. -/
theorem Config.mem_paths_of_mem_inputs (ht : c.actions[key]? = some declared) {path : String}
    (hp : path ∈ declared.inputs) : path ∈ c.paths :=
  mem_paths.2 (Or.inr ⟨key, declared, ht, Or.inl hp⟩)

/-- A loss of paths, with the owners of the graph, speaks of the graph's own artifacts. -/
theorem Loss.native_of_entries (ho : loss.owners = (Graph.ofConfig c).treeOwners)
    (hi : ∀ input, input ∈ loss.inputs ↔ ∃ path ∈ lost, input = (c.entryOf path).2) :
    loss.Native (.ofConfig c) (Graph.ofConfig c).runfilesOwners := by
  refine native_ofConfig ho fun input hinput a ha => ?_
  obtain ⟨path, -, rfl⟩ := (hi input).1 hinput
  unfold Config.entryOf at ha
  split at ha
  case isFalse => cases ha
  case isTrue hp =>
    cases ha
    rw [Graph.owns_ofConfig, c.path_artifactFor]
    exact ⟨hp, rfl⟩

/-- A loss of paths shows no defect. -/
theorem exists_resolve_of_entries (ht : c.actions[key]? = some declared)
    (hi : ∀ input, input ∈ loss.inputs ↔ ∃ path ∈ lost, input = (c.entryOf path).2)
    (runfiles : Owners) (artifacts : Std.ExtTreeMap String Artifact) :
    ∃ r, Ownership.resolve ⟨loss.owners, runfiles, (Graph.actionOf c artifacts key declared).directDeps⟩
      key loss.inputs = .ok r := by
  refine Ownership.exists_resolve fun path hvirtual hdirect => ?_
  have hp := Config.mem_paths_of_mem_inputs ht (Graph.mem_directDeps_actionOf.1 hdirect)
  obtain ⟨path', -, he⟩ := (hi _).1 hvirtual
  unfold Config.entryOf at he
  split at he
  case isTrue => cases he
  case isFalse hnot =>
    cases he
    exact hnot hp

/-- A source accounts for a loss of paths exactly if one of them is a source that the action reads. -/
theorem any_isSource_iff (ht : c.actions[key]? = some declared)
    (ho : loss.owners = (Graph.ofConfig c).treeOwners)
    (hi : ∀ input, input ∈ loss.inputs ↔ ∃ path ∈ lost, input = (c.entryOf path).2)
    {artifacts : Std.ExtTreeMap String Artifact} {r : Responsible}
    (hr : Ownership.resolve ⟨loss.owners, (Graph.ofConfig c).runfilesOwners,
      (Graph.actionOf c artifacts key declared).directDeps⟩ key loss.inputs = .ok r) :
    (owners r).any Artifact.isSource = true ↔
      ∃ path ∈ lost, path ∈ declared.inputs ∧ (c.artifactFor path).isSource = true := by
  rw [List.any_eq_true]
  constructor
  · rintro ⟨a, ha, hsource⟩
    have ha := mem_owners.1 ha
    have hdirect := Ownership.isDirect_of_resolve hr ha
    have hpath : a.path ∈ declared.inputs := Graph.mem_directDeps_actionOf.1 hdirect
    obtain hlost | ⟨member, howner⟩ := Ownership.origin_of_resolve hr ha
    · obtain ⟨path, hp, he⟩ := (hi _).1 hlost
      unfold Config.entryOf at he
      split at he
      case isFalse => cases he
      case isTrue =>
        cases he
        rw [c.path_artifactFor] at hpath
        exact ⟨path, hp, hpath, hsource⟩
    -- what owns a member is a tree or a collection of runfiles
    · exfalso
      unfold Artifact.isSource at hsource
      obtain howner | howner := howner
      · rw [ho] at howner
        simp [(Graph.owns_of_ownersOf howner).2] at hsource
      · simp [(Graph.owns_of_ownersOf howner).2] at hsource
  · rintro ⟨path, hp, hpath, hsource⟩
    refine ⟨c.artifactFor path, mem_owners.2 (Ownership.mem_of_resolve hr ?_ ?_), hsource⟩
    · refine (hi _).2 ⟨path, hp, ?_⟩
      unfold Config.entryOf
      rw [if_pos (Config.mem_paths_of_mem_inputs ht hpath)]
    · rw [Artifact.node, c.path_artifactFor]
      exact Graph.mem_directDeps_actionOf.2 hpath

end Lost

/-! ### The session of a diagnosis -/

namespace Diagnosis

theorem evaluation_sessionOf (c : Config) : (sessionOf c).build.evaluation =
    ({} : Evaluation).completeAll (.ofConfig c) :=
  Session.evaluation_seedCache _

theorem primed_sessionOf (c : Config) : (sessionOf c).Primed c :=
  Session.primed_of_completeAll rfl (evaluation_sessionOf c)

/-- Remembering executions remembers those of all actions. -/
theorem mem_cache_foldl_cacheResult {digests : Build → Action → List String} {actions : List Action}
    {b : Build} {a : Action} (h : a ∈ actions ∨ a.key ∈ b.cache) :
    a.key ∈ (actions.foldl (fun b a => b.cacheResult a.key (digests b a)) b).cache := by
  induction actions generalizing b with
  | nil =>
    obtain h | h := h
    · cases h
    · exact h
  | cons action actions ih =>
    apply ih
    obtain h | h := h
    · obtain rfl | h := List.mem_cons.1 h
      · exact Or.inr Std.ExtTreeMap.mem_insert_self
      · exact Or.inl h
    · exact Or.inr (Std.ExtTreeMap.mem_insert.2 (Or.inr h))

theorem mem_cache_sessionOf {k : ActionKey} (h : k ∈ c.actions) : k ∈ (sessionOf c).build.cache := by
  obtain ⟨a, ha⟩ := mem_iff_exists_getElem?.1 (Graph.mem_actions_ofConfig.2 h)
  have hroster : a ∈ (Graph.ofConfig c).roster :=
    List.mem_map.2 ⟨(k, a), Std.ExtTreeMap.mem_toList_iff_getElem?_eq_some.2 ha, rfl⟩
  rw [← Graph.key_of_getElem?_actions ha]
  exact mem_cache_foldl_cacheResult (Or.inl hroster)

/-- A diagnosis begins its build with everything done. -/
theorem complete_sessionOf (hd : d.validate = .ok c) : (sessionOf c).begun.Complete c where
  graph := rfl
  interrupted := rfl
  history := rfl
  attempts k := by
    have hnone : (sessionOf c).begun.build.attempts[k]? = none := Std.ExtTreeMap.getElem?_empty
    unfold Build.attemptsOf
    rw [hnone]
    rfl
  maxRewinds := by
    show 1 ≤ c.settings.maxRewinds
    rw [(Description.checks_of_validate hd).1]
    exact (Description.valid_of_validate hd).rewinds
  isDone {n} hn := by
    show (sessionOf c).build.evaluation.isDone n = true
    rw [evaluation_sessionOf]
    exact Evaluation.isDone_foldl_complete.2 (Or.inl hn)
  cached := mem_cache_sessionOf

/-! ### The answer -/

/-- What a loss of inputs of an action comes to. -/
theorem rewind_eq {key : ActionKey} {lost : List String} {loss : Loss}
    (h : (sessionOf c).lossOf (key.text ++ " could not read its inputs") lost = .ok loss)
    {result : Except Failure Outcome}
    (hr : Stop.split ((sessionOf c).begun.handle key loss).1 = .ok result) :
    rewind c key lost = .ok ⟨key, result⟩ := by
  have honce := (sessionOf c).rewindOnce_fst key loss
  rw [hr] at honce
  unfold rewind
  simp only [h, Except.mapError, bind, Except.bind]
  rw [honce]

theorem exists_validate_of_load {file : Except FileFault String} (h : Config.load file = .ok c) :
    ∃ d : Description, d.validate = .ok c := by
  unfold Config.load at h
  cases hd : Description.load file with
  | error failure =>
    rw [hd] at h
    cases h
  | ok d =>
    rw [hd] at h
    refine ⟨d, ?_⟩
    have h : d.validate.mapError Failure.rejected = .ok c := h
    cases hv : d.validate with
    | error rejection =>
      rw [hv] at h
      cases h
    | ok c' =>
      rw [hv] at h
      rw [Except.ok.inj h]

/-- The answer is what the rewind comes to. -/
theorem answer_eq {file : Except FileFault String} {q : Question} (hload : Config.load file = .ok c)
    {text : String} (htext : q.action = some text) {key : ActionKey}
    (hkey : ActionKey.parse text = .ok key) (hdry : q.dryRun = false)
    {result : Except Failure Outcome} (hr : rewind c key q.lost = .ok ⟨key, result⟩) :
    answer file q = (result.mapError .failure).map fun o => o.listing key := by
  unfold answer actionOf
  simp only [hload, hdry, htext, hkey, hr, Except.mapError, bind, Except.bind, pure, Except.pure,
    if_false, Bool.false_eq_true]
  cases result <;> rfl

/-- **A diagnosis succeeds unless a source was lost.** The description in the file is accepted, the key
is that of one of its actions, and the lost paths, which have no null characters, are hashed without
collisions. If one of the paths is a source that the action reads, the answer is that this cannot be
repaired; if none is, the loss is rewound, whatever else the paths name, in a first attempt that
restarts and evicts all that its plan names. -/
theorem answer_of_load {file : Except FileFault String} {q : Question}
    (hload : Config.load file = .ok c) {text : String} (htext : q.action = some text)
    {key : ActionKey} (hkey : ActionKey.parse text = .ok key) {declared : ActionSection}
    (ht : c.actions[key]? = some declared) (hdry : q.dryRun = false)
    (hnull : ∀ path ∈ q.lost, '\x00' ∉ path.toList) (hapart : Blake3.Apart (c.hashed q.lost)) :
    ((∃ path ∈ q.lost, path ∈ declared.inputs ∧ (c.artifactFor path).isSource = true) →
      ∃ cause, (sessionOf c).lossOf (key.text ++ " could not read its inputs") q.lost = .ok cause ∧
        answer file q = .error (.failure (.execution
          { action := key, mnemonic := declared.mnemonic, fault := .sourceLost, cause }))) ∧
    ((¬∃ path ∈ q.lost, path ∈ declared.inputs ∧ (c.artifactFor path).isSource = true) →
      ∃ o, rewind c key q.lost = .ok ⟨key, .ok o⟩ ∧ answer file q = .ok (o.listing key) ∧
        o.attempt = 1 ∧ o.invalidated = o.plan.restart.size ∧
        o.evicted = 1 + o.plan.additional.length) := by
  obtain ⟨d, hd⟩ := exists_validate_of_load hload
  have hprimed := primed_sessionOf c
  have hcomplete := complete_sessionOf hd
  have hloss := hprimed.lossOf_eq_ok (key.text ++ " could not read its inputs") q.lost
  generalize hcause : Loss.mk _ _ _ = loss at hloss
  have ho : loss.owners = (Graph.ofConfig c).treeOwners := by rw [← hcause]
  have hi : ∀ input, input ∈ loss.inputs ↔ ∃ path ∈ q.lost, input = (c.entryOf path).2 :=
    fun _ => hprimed.mem_inputs_of_lossOf hapart hnull hloss
  have hl := Loss.native_of_entries ho hi
  have hf : (sessionOf c).begun.graph.actions[key]? =
      some (Graph.actionOf c (Graph.ofConfig c).artifacts key declared) := by
    show (Graph.ofConfig c).actions[key]? = _
    rw [Graph.getElem?_actions_ofConfig, ht]
    rfl
  obtain ⟨r, hr⟩ := exists_resolve_of_entries ht hi (Graph.ofConfig c).runfilesOwners
    (Graph.ofConfig c).artifacts
  have hsource := any_isSource_iff ht ho hi hr
  obtain ⟨hlost, hmade⟩ := handle_complete hd hcomplete hf hl hr
  constructor
  · intro h
    refine ⟨loss, hloss, ?_⟩
    have hrewind := rewind_eq hloss (by rw [hlost (hsource.2 h)]; rfl)
    rw [answer_eq hload htext hkey hdry hrewind]
    rfl
  · intro h
    obtain ⟨o, ho⟩ := hmade (by rw [← Bool.not_eq_true, hsource]; exact h)
    have hrewind := rewind_eq hloss (by rw [ho]; rfl)
    refine ⟨o, hrewind, ?_, hcomplete.counts hd hl ho⟩
    rw [answer_eq hload htext hkey hdry hrewind]
    rfl

/-- A tree is made from a source, and both are read. -/
def treeFile : Except FileFault String := .ok <|
  "[config]\nbug_report = \"panic\"\n[artifact.t]\nkind = \"tree\"\nmembers = [\"t/m\"]\n" ++
  "[action.\"//p#0\"]\ninputs = [\"s\"]\noutputs = [\"t\"]\n[action.\"//f#0\"]\ninputs = [\"t\", \"s\"]\n"

/-- A member of the tree was lost, and a file that belongs to nothing. -/
def treeQuestion : Question := { action := some "//f#0", lost := ["t/m", "u"] }

/-- The source was lost as well. -/
def sourceQuestion : Question := { action := some "//f#0", lost := ["t/m", "u", "s"] }

/-- The tree is made again, but the source is not. -/
theorem answer_of_load_tree : ∃ c o cause, Config.load treeFile = .ok c ∧
    Blake3.Apart (c.hashed treeQuestion.lost) ∧
    rewind c ⟨"//f", 0⟩ treeQuestion.lost = .ok ⟨⟨"//f", 0⟩, .ok o⟩ ∧
    answer treeFile treeQuestion = .ok (o.listing ⟨"//f", 0⟩) ∧
    (o.attempt = 1 ∧ o.invalidated = o.plan.restart.size ∧
      o.evicted = 1 + o.plan.additional.length) ∧
    Blake3.Apart (c.hashed sourceQuestion.lost) ∧
    (sessionOf c).lossOf "//f#0 could not read its inputs" sourceQuestion.lost = .ok cause ∧
    answer treeFile sourceQuestion = .error (.failure (.execution
      { action := ⟨"//f", 0⟩, mnemonic := "Action", fault := .sourceLost, cause })) := by
  -- what is hashed is the same for both losses, for only one of the paths names nothing
  have hfile : ((Config.load treeFile).toOption.map fun c =>
      (c.actions[(⟨"//f", 0⟩ : ActionKey)]?, (c.artifactFor "s").isSource,
        decide (c.hashed sourceQuestion.lost = c.hashed treeQuestion.lost),
        (c.hashed treeQuestion.lost).map Blake3.digest)) =
    some (some { inputs := ["t", "s"] }, true, true,
      ["dda153184b8d048e8ac99572187356fd68e6fdebac72d7aaba76005e28488e77",
       "23e2d9e1d0cea1980fac0924e93914c06f104f11dacdb18b1c49f6f8634c756c",
       "da998b3e22518be9d195a5238bfe52d0d4aef5bc281ce6e6f465c2315be6685c",
       "a5a13f97baf10d48439d325793b9c83d9b2550e6a05f92d11722fa59e21ad1d4",
       "8ad947ee18bc92272ae12e944103a7aa95342174cc8ac73580cd0636e0f88a77",
       "135e48e7e8a6c46c54b691dc13e3ce20b8426755ed52ad5f93ebb4b66215b318"]) := by decide +kernel
  cases hload : Config.load treeFile with
  | error failure =>
    rw [hload] at hfile
    cases hfile
  | ok c =>
    rw [hload] at hfile
    obtain ⟨hsection, hfile⟩ := Prod.mk.inj (Option.some.inj hfile)
    obtain ⟨hsource, hfile⟩ := Prod.mk.inj hfile
    obtain ⟨hsame, hdigests⟩ := Prod.mk.inj hfile
    have hnodup : ((c.hashed treeQuestion.lost).map Blake3.digest).Nodup := by
      rw [hdigests]
      decide
    have hapart : Blake3.Apart (c.hashed treeQuestion.lost) :=
      Blake3.apart_of_nodup (List.Subset.refl _) hnodup
    have hkey : ActionKey.parse "//f#0" = .ok ⟨"//f", 0⟩ := by decide +kernel
    have hread : ∀ path ∈ treeQuestion.lost, path ∉ ["t", "s"] := by decide
    obtain ⟨o, ho⟩ := (answer_of_load hload rfl hkey hsection rfl (q := treeQuestion) (by decide +kernel)
      hapart).2 fun ⟨path, hlost, hinput, _⟩ => hread path hlost hinput
    have hapart' : Blake3.Apart (c.hashed sourceQuestion.lost) := by rwa [of_decide_eq_true hsame]
    obtain ⟨cause, hcause, hanswer⟩ := (answer_of_load hload rfl hkey hsection rfl (q := sourceQuestion)
      (by decide +kernel) hapart').1 ⟨"s", by decide, by decide, hsource⟩
    exact ⟨c, o, cause, rfl, hapart, ho.1, ho.2.1, ho.2.2, hapart', hcause, hanswer⟩

end Diagnosis

end Rewinding
