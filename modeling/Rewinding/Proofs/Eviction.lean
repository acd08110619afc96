import Rewinding.Proofs.Upstream

/-!
# Which actions upstream are evicted

On a graph whose nodes are all done, a rewind should evict every action upstream of what was lost.
One thing can keep it from that: an action is passed over where another one that is evicted names it
among the nodes that it wants along, and has it restarted before the walk meets it as a maker. It is
then neither evicted nor are its inputs restarted (`evicted_upstream_iff_not_overtaken`).
-/

namespace Rewinding

open Planning

/-- An action runs again after a rewind: it was evicted with all traces, and inputs that it passes on
are restarted. -/
structure Config.Evicted (c : Config) (plan : Plan) (b : Build) (k : ActionKey) : Prop where
  additional : k ∈ plan.additionalKeys
  restarted : b.evaluation.isDone (.action k) = false
  forgotten : k ∉ b.cache
  inputs {declared : ActionSection} {path : String} : c.actions[k]? = some declared →
    declared.propagates → path ∈ declared.inputs → (c.artifactFor path).isSource = false →
    .artifact path ∈ plan.restart.nodes

/-- What a rewind notes it evicts. -/
theorem Build.Rewound.evicted {c : Config} {key : ActionKey} {lost : List Artifact} {builder : Builder}
    {b b' : Build} (h : Rewound (.ofConfig c) key lost builder b b') {action : Action}
    (ha : action ∈ builder.noted) : c.Evicted builder.plan b' action.key := by
  have hadditional : action.key ∈ builder.plan.additionalKeys := List.mem_map_of_mem ha
  obtain ⟨hm, -⟩ := h.finished.grounded.noted ha
  refine ⟨hadditional, h.isDone_of_marked hm, ?_, ?_⟩
  · rw [h.cached]
    exact fun hcached => hcached.1 (List.mem_cons_of_mem _ hadditional)
  · intro declared path ht hp hi hs
    have hcovers := h.finished.covers_input ha ht hp hi hs
    rw [← c.path_artifactFor path]
    exact Builder.mem_nodes_plan.2 (Or.inr hcovers.node)

/-- **A rewind evicts what is upstream, but for actions that are overtaken.** So it evicts all of it
where no action upstream names another one to be restarted along. -/
theorem evicted_upstream_iff_not_overtaken {d : Description} {c : Config} (hc : d.validate = .ok c)
    {s : Session} (hg : s.graph = .ofConfig c)
    (hdone : ∀ n ∈ s.graph.nodes, s.build.evaluation.isDone n = true) {key : ActionKey} {loss : Loss}
    {o : Outcome} (ho : (s.handle key loss).1 = .ok o) :
    ∃ lost, s.responsible? key loss = some lost ∧
      ((∀ k, c.Upstream (fun _ => True) lost (.action k) →
          c.Evicted o.plan (s.handle key loss).2.build k) ↔
        ∀ k, c.Upstream (fun _ => True) lost (.action k) → ¬o.plan.Overtakes k) ∧
      ((∀ k k' declared, c.Upstream (fun _ => True) lost (.action k) →
          c.Upstream (fun _ => True) lost (.action k') → c.actions[k]? = some declared →
          .action k' ∉ declared.depNodes) →
        ∀ k, c.Upstream (fun _ => True) lost (.action k) →
          c.Evicted o.plan (s.handle key loss).2.build k) := by
  have hacc := Description.accepted_of_validate hc
  obtain ⟨lost, builder, hlost, hplan, hrewound, hapart⟩ :=
    Session.exists_rewound_ofConfig hacc hg ho
  have hfin := hrewound.finished
  have hmakers : ∀ path, ∀ k ∈ c.makersAt path, s.build.evaluation.isDone (.action k) = true := by
    intro path k hk
    have hk := Graph.action_mem_nodes (hacc.mem_actions_of_mem_makersAt hk)
    exact hdone _ (hg ▸ hk)
  have hiff : (∀ k, c.Upstream (fun _ => True) lost (.action k) →
      c.Evicted builder.plan (s.handle key loss).2.build k) ↔
      ∀ k, c.Upstream (fun _ => True) lost (.action k) → ¬builder.plan.Overtakes k := by
    refine ⟨fun h k hk hover => hover.2.1 (h k hk).additional, fun h k hk => ?_⟩
    -- all makers are done, so the walk stops at overtaken actions only
    have hpasses : ∀ n, c.Upstream (fun _ => True) lost n → True →
        c.Passes s.build.evaluation builder.plan n := by
      intro n hn _
      cases n with
      | action k => exact h k hn
      | artifact path => exact hmakers path
      | other name => trivial
    have hmarked := hfin.marked_of_upstream hacc (hrewound.failed ▸ hapart _) (hk.through hpasses)
    have hne : k ≠ builder.failed := by
      rintro rfl
      exact hapart _ (hrewound.failed ▸ hk)
    obtain ⟨action, ha, rfl⟩ := hfin.exists_noted hmarked hne (h k hk)
    exact hrewound.evicted ha
  rw [hplan]
  -- what overtakes is evicted, so it is upstream itself
  refine ⟨lost, hlost, hiff, fun hnames => hiff.2 fun k hk hover => ?_⟩
  obtain ⟨-, -, action, ha, hw⟩ := hover
  obtain ⟨-, -, hneeds, -⟩ := hfin.grounded.noted ha
  obtain ⟨declared, ht, heq⟩ := hfin.eq_actionOf ha
  rw [heq] at hw
  exact hnames action.key k declared (Walk.Finished.upstream_of_needs hneeds) hk ht
    (Graph.action_mem_wanted_actionOf.1 hw)

/-- Two inputs of an action are lost. The first one's maker names the second one's, which passes on
an input that a third action makes. -/
def Description.overtaking : Description where
  actions := Std.ExtTreeMap.ofList
    [("//a#0", { inputs := ["src/a"], outputs := ["out/a"], rewindDeps := ["//p#0"] }),
     ("//p#0", { inputs := ["out/r"], outputs := ["out/p"], propagates := true }),
     ("//r#0", { inputs := ["src/r"], outputs := ["out/r"] }),
     ("//f#0", ({ inputs := ["out/a", "out/p"], outputs := ["out/f"] } : ActionSection))]

/-- The loss of both. -/
def Loss.overtaking : Loss :=
  .ofEntries "" [("1", .artifact ⟨"out/a", .derived⟩), ("2", .artifact ⟨"out/p", .derived⟩)] ∅

theorem validate_overtaking : Description.overtaking.validate = .ok Description.overtaking.accepted :=
  Description.validate_eq_accepted (by decide +kernel)

/-- The session in which that happens. -/
def Session.overtaking : Session := .ready Description.overtaking.accepted .log

/-- The second maker is overtaken: it keeps its last execution, and what makes its input is not even
restarted. -/
theorem overtaking_not_evicted : ∃ o lost,
    (Session.overtaking.handle ⟨"//f", 0⟩ .overtaking).1 = .ok o ∧
    Session.overtaking.responsible? ⟨"//f", 0⟩ .overtaking = some lost ∧
    Description.overtaking.accepted.Upstream (fun _ => True) lost (.action ⟨"//p", 0⟩) ∧
    Description.overtaking.accepted.Upstream (fun _ => True) lost (.action ⟨"//r", 0⟩) ∧
    ⟨"//p", 0⟩ ∉ o.plan.additionalKeys ∧
    (Session.overtaking.handle ⟨"//f", 0⟩ .overtaking).2.build.evaluation.isDone
      (.action ⟨"//r", 0⟩) = true := by
  have hlost : Session.overtaking.responsible? ⟨"//f", 0⟩ .overtaking =
      some [⟨"out/a", .derived⟩, ⟨"out/p", .derived⟩] := by decide +kernel
  have hplan : (Session.overtaking.handle ⟨"//f", 0⟩ .overtaking).1.toOption.map
      (fun o => o.plan.additionalKeys) = some [⟨"//a", 0⟩] := by decide +kernel
  have hp : Description.overtaking.accepted.Upstream (fun _ => True)
      [⟨"out/a", .derived⟩, ⟨"out/p", .derived⟩] (.action ⟨"//p", 0⟩) := by
    have hout : (⟨"out/p", .derived⟩ : Artifact) ∈
      [(⟨"out/a", .derived⟩ : Artifact), ⟨"out/p", .derived⟩] := by simp
    exact .maker (.lost hout) trivial (by decide +kernel)
  have hsection : Description.overtaking.accepted.actions[(⟨"//p", 0⟩ : ActionKey)]? =
    some { inputs := ["out/r"], outputs := ["out/p"], propagates := true } := by decide +kernel
  have hr := Config.Upstream.input hp trivial hsection rfl List.mem_cons_self (by decide +kernel)
  obtain ⟨o, ho⟩ := exists_eq_ok (x := (Session.overtaking.handle ⟨"//f", 0⟩ .overtaking).1)
    (by decide +kernel)
  rw [ho] at hplan
  refine ⟨o, _, ho, hlost, hp, .maker hr trivial (by decide +kernel), ?_, by decide +kernel⟩
  have hkeys : o.plan.additionalKeys = [⟨"//a", 0⟩] := Option.some.inj hplan
  rw [hkeys]
  decide

theorem evicted_upstream_overtaking : ∃ o lost,
    (Session.overtaking.handle ⟨"//f", 0⟩ .overtaking).1 = .ok o ∧
    Session.overtaking.responsible? ⟨"//f", 0⟩ .overtaking = some lost ∧
    ((∀ k, Description.overtaking.accepted.Upstream (fun _ => True) lost (.action k) →
        Description.overtaking.accepted.Evicted o.plan
          (Session.overtaking.handle ⟨"//f", 0⟩ .overtaking).2.build k) ↔
      ∀ k, Description.overtaking.accepted.Upstream (fun _ => True) lost (.action k) →
        ¬o.plan.Overtakes k) := by
  obtain ⟨o, ho⟩ := exists_eq_ok (x := (Session.overtaking.handle ⟨"//f", 0⟩ .overtaking).1)
    (by decide +kernel)
  obtain ⟨lost, hlost, hiff, -⟩ := evicted_upstream_iff_not_overtaken validate_overtaking rfl
    (fun _ => Session.isDone_ready) ho
  exact ⟨o, lost, ho, hlost, hiff⟩

end Rewinding
