import Rewinding.Proofs.Upstream

/-!
# Rewinds, one after another

A rewind passes over an artifact some maker of which is not done, and trusts an earlier one to have
restarted all that the artifact needs. Whatever happened before, a rewind restarts what is upstream
up to those artifacts. For all of it the trust has to be earned, which is an invariant of the nodes
that are done, `Config.Together`: an action that is not done has taken along the other makers of what
it makes, and the inputs that it passes on with all their makers.

* `together_rewound`: a rewind keeps the invariant, for all actions but the failed one;
* `together_handleAll`: a run keeps it, if the failed actions take along all that they have to;
* `not_isDone_upstream` says what of the upstream is restarted in a run, in either case.
-/

namespace Rewinding

open Planning

/-! ### The invariant -/

/-- What an action that is not done has taken along. -/
structure Config.TakesAlong (c : Config) (e : Evaluation) (k : ActionKey) : Prop where
  makers {path : String} {k' : ActionKey} : k ∈ c.makersAt path → k' ∈ c.makersAt path →
    e.isDone (.action k') = false
  inputs {declared : ActionSection} {path : String} : c.actions[k]? = some declared →
    declared.propagates → path ∈ declared.inputs → (c.artifactFor path).isSource = false →
    e.isDone (.artifact path) = false ∧ ∀ k' ∈ c.makersAt path, e.isDone (.action k') = false

/-- Every action that is not done has taken along what it needs to be made again. -/
def Config.Together (c : Config) (e : Evaluation) : Prop :=
  ∀ k ∈ c.actions, e.isDone (.action k) = false → c.TakesAlong e k

/-- No action wants another action along. -/
def Config.Plain (c : Config) : Prop :=
  ∀ (k : ActionKey) declared, c.actions[k]? = some declared → ∀ k', .action k' ∉ declared.depNodes

/-- Artifacts that share one maker share all of them. -/
def Config.Shares (c : Config) : Prop :=
  ∀ path path' k k', k ∈ c.makersAt path → k ∈ c.makersAt path' → k' ∈ c.makersAt path →
    k' ∈ c.makersAt path'

/-- An action passes nothing on, and makes alone what it makes. -/
structure Config.Lone (c : Config) (k : ActionKey) : Prop where
  keeps {declared : ActionSection} : c.actions[k]? = some declared → declared.propagates = false
  alone {path : String} {k' : ActionKey} : k ∈ c.makersAt path → k' ∈ c.makersAt path → k' = k

variable {c : Config}

theorem Config.TakesAlong.mono {e e' : Evaluation} {k : ActionKey} (h : c.TakesAlong e k)
    (he : ∀ n, e.isDone n = false → e'.isDone n = false) : c.TakesAlong e' k where
  makers hk hk' := he _ (h.makers hk hk')
  inputs ht hp hi hs := by
    obtain ⟨ha, hm⟩ := h.inputs ht hp hi hs
    exact ⟨he _ ha, fun k' hk' => he _ (hm k' hk')⟩

/-! ### One rewind -/

namespace Build.Rewound

variable {key : ActionKey} {lost : List Artifact} {builder : Builder} {b b' : Build}
  (h : Rewound (.ofConfig c) key lost builder b b')
include h

variable (hc : c.Accepted) (hb : c.Together b.evaluation)
include hc hb

/-- The makers of a covered artifact are restarted now, or have been before. -/
theorem isDone_makers {a : Artifact} (ha : builder.Covers (b.queries (.ofConfig c)) a)
    {k : ActionKey} (hk : k ∈ c.makersAt a.path) : b'.evaluation.isDone (.action k) = false := by
  by_cases hd : ∀ k ∈ c.makersAt a.path, b.evaluation.isDone (.action k) = true
  case pos => exact h.isDone_of_marked (Walk.Finished.marked_of_covers hc ha hk hd)
  -- one that is not done has taken the others along
  case neg =>
    obtain ⟨k', hd⟩ := Classical.not_forall.1 hd
    obtain ⟨hk', hd⟩ := Classical.not_imp.1 hd
    have htakes := hb k' (hc.mem_actions_of_mem_makersAt hk') (by simpa using hd)
    exact h.isDone_of_isDone (htakes.makers hk' hk)

variable (hplain : c.Plain) (hshares : c.Shares)
include hplain hshares

/-- What is restarted because it is needed takes along what it needs. -/
theorem takesAlong_of_noted {action : Action} (ha : action ∈ builder.noted) :
    c.TakesAlong b'.evaluation action.key := by
  have hfin := h.finished
  have hnone : ∀ action ∈ builder.noted, ∀ k, .action k ∉ action.wanted := by
    intro action ha k hk
    obtain ⟨declared, ht, heq⟩ := hfin.eq_actionOf ha
    rw [heq] at hk
    exact hplain _ _ ht _ (Graph.action_mem_wanted_actionOf.1 hk)
  constructor
  · intro path k' hk hk'
    obtain ⟨-, -, hneeds, -⟩ := hfin.grounded.noted ha
    -- the artifact for which the action is needed has the same makers
    cases hneeds with
    | @producer a producers _ hneeds hd hmem =>
      obtain ⟨hp, -⟩ := Evaluation.discover_eq_some hd
      have hk'' := hshares path a.path _ _ hk (Config.mem_makersAt.2 ⟨_, hp, hmem⟩) hk'
      obtain ⟨_, hp', hk''⟩ := Config.mem_makersAt.1 hk''
      rw [hp] at hp'
      obtain rfl := Option.some.inj hp'
      exact h.isDone_of_marked (hfin.of_needs hnone (.producer hneeds hd hk''))
  · intro declared path ht hp hi hs
    have hcovers := hfin.covers_input ha ht hp hi hs
    have hpath := c.path_artifactFor path
    refine ⟨?_, fun k' hk' => h.isDone_makers hc hb hcovers (hpath.symm ▸ hk')⟩
    have hnode := h.isDone_of_marked hcovers.node
    rwa [Artifact.node, hpath] at hnode

/-- **A rewind keeps actions together**, the failed one aside. -/
theorem together_rewound {k : ActionKey} (hk : k ∈ c.actions) (hne : k ≠ key)
    (hd : b'.evaluation.isDone (.action k) = false) : c.TakesAlong b'.evaluation k := by
  by_cases hdb : b.evaluation.isDone (.action k) = true
  -- what was not done before has taken along what it needs, and that is not done now either
  case neg =>
    exact (hb k hk (by simpa using hdb)).mono fun n => h.isDone_of_isDone
  -- what is restarted now is noted, as nothing is wanted along
  case pos =>
    have hm : .action k ∈ builder.plan.restart.nodes := by
      apply Decidable.byContradiction
      intro hn
      have := h.isDone.2 ⟨hn, hdb⟩
      rw [hd] at this
      cases this
    rw [Builder.mem_nodes_plan, h.failed] at hm
    obtain he | hm := hm
    · exact absurd (Node.action.inj he) hne
    obtain he | ⟨action, ha, rfl⟩ | ⟨action, ha, hw⟩ := h.finished.grounded.marked_action hm
    · exact absurd (he.trans h.failed) hne
    · exact h.takesAlong_of_noted hc hb hplain hshares ha
    · obtain ⟨declared, ht, heq⟩ := h.finished.eq_actionOf ha
      rw [heq] at hw
      exact absurd (Graph.action_mem_wanted_actionOf.1 hw) (hplain _ _ ht _)

/-- All that is upstream of what was lost is not done then. -/
theorem isDone_upstream (hf : ¬c.Upstream (fun _ => True) lost (.action key)) {n : Node}
    (hn : c.Upstream (fun _ => True) lost n) :
    b'.evaluation.isDone n = false ∧
      ∀ path, n = .artifact path →
        ∀ k ∈ c.makersAt path, b'.evaluation.isDone (.action k) = false := by
  induction hn with
  | @lost a ha =>
    have hcovers := h.finished.covers ha
    refine ⟨h.isDone_of_marked hcovers.node, ?_⟩
    rintro path he k hk
    cases he
    exact h.isDone_makers hc hb hcovers hk
  | maker _ _ hk ih => exact ⟨ih.2 _ rfl _ hk, nofun⟩
  | @input k declared path hu _ ht hp hi hs ih =>
    have hk : k ∈ c.actions := Std.ExtTreeMap.mem_iff_isSome_getElem?.2 (ht ▸ rfl)
    have hne : k ≠ key := by
      rintro rfl
      exact hf hu
    have htakes := h.together_rewound hc hb hplain hshares hk hne ih.1
    obtain ⟨ha, hm⟩ := htakes.inputs ht hp hi hs
    refine ⟨ha, ?_⟩
    rintro path' he
    cases he
    exact hm

end Build.Rewound

/-! ### Runs -/

/-- The failed actions that are rewound in a run. -/
def Session.rewound (s : Session) : List (ActionKey × Loss) → List ActionKey
  | [] => []
  | (key, loss) :: calls =>
    match (s.handle key loss).1 with
    | .ok _ => key :: (s.handle key loss).2.rewound calls
    | .error _ => (s.handle key loss).2.rewound calls

theorem Session.graph_handleAll (s : Session) (calls : List (ActionKey × Loss)) :
    (s.handleAll calls).2.graph = s.graph := by
  induction calls generalizing s with
  | nil => rfl
  | cons call calls ih => exact ih (s.handle call.1 call.2).2

/-- Where all nodes of the graph are done, nothing has to be taken along. -/
theorem Config.together_of_isDone {e : Evaluation}
    (hd : ∀ n ∈ (Graph.ofConfig c).nodes, e.isDone n = true) : c.Together e := by
  intro k hk hdk
  rw [hd _ (Graph.action_mem_nodes hk)] at hdk
  cases hdk

/-- **A run keeps actions together**, if what it rewinds has nothing to take along. -/
theorem together_handleAll (hc : c.Accepted) (hplain : c.Plain) (hshares : c.Shares) {s : Session}
    (hg : s.graph = .ofConfig c) (hb : c.Together s.build.evaluation)
    {calls : List (ActionKey × Loss)} (hlone : ∀ k ∈ s.rewound calls, c.Lone k) :
    c.Together (s.handleAll calls).2.build.evaluation := by
  induction calls generalizing s with
  | nil => exact hb
  | cons call calls ih =>
    obtain ⟨key, loss⟩ := call
    unfold Session.rewound at hlone
    show c.Together ((s.handle key loss).2.handleAll calls).2.build.evaluation
    cases ho : (s.handle key loss).1 with
    | error stop =>
      rw [ho] at hlone
      exact ih hg (Session.evaluation_handle_of_error ho ▸ hb) hlone
    | ok o =>
      rw [ho] at hlone
      obtain ⟨lost, builder, -, -, h, -⟩ := Session.exists_rewound_ofConfig hc hg ho
      refine ih hg ?_ fun k hk => hlone k (List.mem_cons_of_mem _ hk)
      intro k hk hd
      by_cases hne : k = key
      case neg => exact h.together_rewound hc hb hplain hshares hk hne hd
      case pos =>
        subst hne
        have hl := hlone k List.mem_cons_self
        constructor
        · intro path k' hm hm'
          rw [hl.alone hm hm']
          exact hd
        · intro declared path ht hp
          rw [hl.keeps ht] at hp
          cases hp

/-- **What of the upstream a rewind in a run restarts.** After any run, a rewind that succeeds leaves
not done what is upstream of the artifacts that account for its loss,

* up to artifacts some maker of which was not done before, and up to actions that are overtaken;
* and all of it where no action wants another one along, artifacts that share a maker share all, and
  the actions that were rewound earlier in the run pass nothing on and make alone what they make. -/
theorem not_isDone_upstream {d : Description} (hc : d.validate = .ok c) {s : Session}
    (hg : s.graph = .ofConfig c) (hdone : ∀ n ∈ s.graph.nodes, s.build.evaluation.isDone n = true)
    (calls : List (ActionKey × Loss)) {key : ActionKey} {loss : Loss} {o : Outcome}
    (ho : ((s.handleAll calls).2.handle key loss).1 = .ok o) :
    ∃ lost, (s.handleAll calls).2.responsible? key loss = some lost ∧
      (∀ n, c.Upstream (c.Passes (s.handleAll calls).2.build.evaluation o.plan) lost n →
        ((s.handleAll calls).2.handle key loss).2.build.evaluation.isDone n = false) ∧
      (c.Plain → c.Shares → (∀ k ∈ s.rewound calls, c.Lone k) →
        ∀ n, c.Upstream (fun _ => True) lost n →
          ((s.handleAll calls).2.handle key loss).2.build.evaluation.isDone n = false) := by
  have hacc := Description.accepted_of_validate hc
  have hg' : (s.handleAll calls).2.graph = .ofConfig c := (s.graph_handleAll calls).trans hg
  obtain ⟨lost, builder, hlost, hplan, h, hapart⟩ := Session.exists_rewound_ofConfig hacc hg' ho
  rw [hplan]
  refine ⟨lost, hlost, fun n hn => ?_, fun hplain hshares hlone n hn => ?_⟩
  · have hm := h.finished.marked_of_upstream hacc (h.failed ▸ hapart _) hn
    cases n with
    | artifact path =>
      obtain ⟨a, rfl, ha⟩ := hm
      exact h.isDone_of_marked ha.node
    | action k => exact h.isDone_of_marked hm
    | other name => exact hm.elim
  · have hb := Config.together_of_isDone (hg ▸ hdone)
    have hb' := together_handleAll hacc hplain hshares hg hb hlone
    exact (h.isDone_upstream hacc hb' hplain hshares (hapart _) hn).1

/-- Two actions read what a third one makes. -/
def Description.joining : Description where
  actions := Std.ExtTreeMap.ofList
    [("//p#0", { inputs := ["src/x"], outputs := ["out/x"] }),
     ("//f#0", { inputs := ["out/x"], outputs := ["out/f"] }),
     ("//g#0", ({ inputs := ["out/x"], outputs := ["out/g"] } : ActionSection))]

/-- One of them reads a file, the other one a tree, and these have only one maker in common. -/
def Description.sharing : Description where
  artifacts := Std.ExtTreeMap.ofList
    [("out/t", ({ kind := .tree, expandedActions := ["//p#0", "//p#1"] } : ArtifactSection))]
  actions := Std.ExtTreeMap.ofList
    [("//p#0", { inputs := ["src/0"], outputs := ["out/x"] }),
     ("//p#1", { inputs := ["src/1"] }),
     ("//f#0", { inputs := ["out/x"], outputs := ["out/f"] }),
     ("//g#0", ({ inputs := ["out/t"], outputs := ["out/g"] } : ActionSection))]

/-- The loss of one artifact. -/
def Loss.one (a : Artifact) : Loss := .ofEntries "" [("1", .artifact a)] ∅

/-- The first action is rewound for its input. -/
def Session.joiningCalls : List (ActionKey × Loss) := [(⟨"//f", 0⟩, .one ⟨"out/x", .derived⟩)]

def Session.joining : Session := .ready Description.joining.accepted .log

def Session.sharing : Session := .ready Description.sharing.accepted .log

theorem not_isDone_upstream_joining : ∃ o lost,
    ((Session.joining.handleAll Session.joiningCalls).2.handle ⟨"//g", 0⟩
      (.one ⟨"out/x", .derived⟩)).1 = .ok o ∧
    (Session.joining.handleAll Session.joiningCalls).2.responsible? ⟨"//g", 0⟩
      (.one ⟨"out/x", .derived⟩) = some lost ∧
    ∀ n, Description.joining.accepted.Upstream (fun _ => True) lost n →
      ((Session.joining.handleAll Session.joiningCalls).2.handle ⟨"//g", 0⟩
        (.one ⟨"out/x", .derived⟩)).2.build.evaluation.isDone n = false := by
  have hc : Description.joining.validate = .ok Description.joining.accepted :=
    Description.validate_eq_accepted (by decide +kernel)
  have hpaths {path : String} {k : ActionKey} (hk : k ∈ Description.joining.accepted.makersAt path) :
      path ∈ Description.joining.accepted.paths := by
    obtain ⟨_, hp, -⟩ := Config.mem_makersAt.1 hk
    exact (Description.accepted_of_validate hc).mem_paths_of_producersOf hp
  have hplain : Description.joining.accepted.Plain := by
    have hall : ∀ x ∈ Description.joining.accepted.actions.toList, x.2.depNodes = [] := by
      decide +kernel
    intro k declared ht k' hk'
    rw [hall (k, declared) (Std.ExtTreeMap.mem_toList_iff_getElem?_eq_some.2 ht)] at hk'
    cases hk'
  have hshares : Description.joining.accepted.Shares := by
    have hall : ∀ path ∈ Description.joining.accepted.paths,
        ∀ path' ∈ Description.joining.accepted.paths,
        ∀ k ∈ Description.joining.accepted.makersAt path,
        k ∈ Description.joining.accepted.makersAt path' →
        ∀ k' ∈ Description.joining.accepted.makersAt path,
          k' ∈ Description.joining.accepted.makersAt path' := by decide +kernel
    intro path path' k k' hk hk' hk''
    exact hall path (hpaths hk) path' (hpaths hk') k hk hk' k' hk''
  have hlone : Description.joining.accepted.Lone ⟨"//f", 0⟩ := by
    constructor
    · have hall : ∀ x ∈ Description.joining.accepted.actions.toList, x.2.propagates = false := by
        decide +kernel
      intro declared ht
      exact hall (_, declared) (Std.ExtTreeMap.mem_toList_iff_getElem?_eq_some.2 ht)
    · have hall : ∀ path ∈ Description.joining.accepted.paths,
          ∀ k ∈ Description.joining.accepted.makersAt path,
          ∀ k' ∈ Description.joining.accepted.makersAt path, k' = k := by decide +kernel
      intro path k' hk hk'
      exact hall path (hpaths hk) _ hk _ hk'
  have hlones : ∀ k ∈ Session.joining.rewound Session.joiningCalls,
      Description.joining.accepted.Lone k := by
    have hcalls : Session.joining.rewound Session.joiningCalls = [⟨"//f", 0⟩] := by decide +kernel
    rw [hcalls]
    intro k hk
    rw [List.mem_singleton.1 hk]
    exact hlone
  obtain ⟨o, ho⟩ := exists_eq_ok (x := ((Session.joining.handleAll Session.joiningCalls).2.handle
    ⟨"//g", 0⟩ (.one ⟨"out/x", .derived⟩)).1) (by decide +kernel)
  obtain ⟨lost, hlost, -, hall⟩ := not_isDone_upstream hc rfl (fun _ => Session.isDone_ready)
    Session.joiningCalls ho
  exact ⟨o, lost, ho, hlost, hall hplain hshares hlones⟩

/-- The tree is passed over, as its one maker is not done, and the other one stays done. -/
theorem sharing_isDone : ∃ o lost,
    ((Session.sharing.handleAll Session.joiningCalls).2.handle ⟨"//g", 0⟩
      (.one ⟨"out/t", .tree⟩)).1 = .ok o ∧
    (Session.sharing.handleAll Session.joiningCalls).2.responsible? ⟨"//g", 0⟩
      (.one ⟨"out/t", .tree⟩) = some lost ∧
    Description.sharing.accepted.Upstream (fun _ => True) lost (.action ⟨"//p", 1⟩) ∧
    ((Session.sharing.handleAll Session.joiningCalls).2.handle ⟨"//g", 0⟩
      (.one ⟨"out/t", .tree⟩)).2.build.evaluation.isDone (.action ⟨"//p", 1⟩) = true := by
  obtain ⟨o, ho⟩ := exists_eq_ok (x := ((Session.sharing.handleAll Session.joiningCalls).2.handle
    ⟨"//g", 0⟩ (.one ⟨"out/t", .tree⟩)).1) (by decide +kernel)
  have hlost : (Session.sharing.handleAll Session.joiningCalls).2.responsible? ⟨"//g", 0⟩
      (.one ⟨"out/t", .tree⟩) = some [⟨"out/t", .tree⟩] := by decide +kernel
  refine ⟨o, _, ho, hlost, ?_, by decide +kernel⟩
  exact .maker (.lost List.mem_cons_self) trivial (by decide +kernel)

end Rewinding
