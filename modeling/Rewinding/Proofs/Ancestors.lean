import Rewinding.Proofs.Provenance
import Rewinding.Proofs.Sources

/-!
# The failed action is not its own ancestor

That no action is before itself is checked once, when a description is accepted. A walk relies on it much
later: it goes backwards from inputs of the failed action, and must not come back to that action, as its node
is marked from the start and would be taken for an action that was noted before.

All that a walk asks about is upstream of what was lost (`Chain.upstream`), whatever is done at the time, and
the failed action is not (`Accepted.not_upstream`).
-/

namespace Rewinding

open Procedure Planning

variable {known : List Action} {c : Config} {reporter : Reporter} {α : Type}
  {p : Procedure (Graph.ofConfig c).roster α} {b : Build} {lost : List Artifact}

/-! ### What a trace on the graph of a description says -/

theorem Discovered.mem_makersAt {a : Artifact} {k : ActionKey}
    (h : Discovered (p.trace (Build.world (.ofConfig c) reporter) b) a k) : k ∈ c.makersAt a.path := by
  obtain ⟨producers, he, hk⟩ := h
  obtain ⟨t, ht⟩ := exists_of_mem_trace he
  exact Config.mem_makersAt.2 ⟨producers, (Evaluation.discover_eq_some ht).1, hk⟩

theorem Made.getElem?_actions {a : Artifact} {action : Action}
    (h : Made (p.trace (Build.world (.ofConfig c) reporter) b) a action) :
    (Graph.ofConfig c).actions[action.key]? = some action := by
  obtain ⟨-, hmem, he⟩ := h
  obtain ⟨t, ht⟩ := exists_of_mem_trace he
  exact Graph.lookup_eq_ok.1 ht

theorem Made.upstream {a : Artifact} {action : Action}
    (h : Made (p.trace (Build.world (.ofConfig c) reporter) b) a action)
    (ha : c.Upstream (fun _ => True) lost a.node) :
    c.Upstream (fun _ => True) lost (.action action.key) :=
  .maker ha trivial h.1.mem_makersAt

/-- A chain goes upstream. -/
theorem Chain.upstream {links : List Link} {action : Action}
    (h : Chain (p.trace (Build.world (.ofConfig c) reporter) b) lost links action) :
    c.Upstream (fun _ => True) lost (.action action.key) := by
  have hlinks : ∀ l ∈ links, c.Upstream (fun _ => True) lost (.action l.action.key) := by
    refine h.induction (fun l hl hm => hm.upstream (.lost hl)) fun l m hl hmade hlm hmade' => ?_
    exact hmade'.upstream (hl.passes trivial hmade.getElem?_actions hlm.1 hlm.2)
  obtain ⟨l, hl, rfl⟩ := h.last
  exact hlinks l (List.mem_of_getLast? hl)

/-- A plan that is explained spreads upstream. -/
theorem Plan.Explained.upstream {plan : Plan}
    (h : plan.Explained (p.trace (Build.world (.ofConfig c) reporter) b) lost) {a : Artifact}
    (ha : plan.SpreadsTo lost a) : c.Upstream (fun _ => True) lost a.node := by
  obtain ha | ⟨action, hm, hp, ha⟩ := ha
  · exact .lost ha
  obtain ⟨links, hchain, -⟩ := h.action action hm
  refine hchain.upstream.passes trivial ?_ hp ha
  obtain ⟨l, hl, rfl⟩ := hchain.last
  exact (hchain.made l (List.mem_of_getLast? hl)).getElem?_actions

/-! ### What a trace that accounts for a plan does not say -/

section Inputs

variable (hc : c.Accepted) {key : ActionKey} {own : ActionSection} (hown : c.actions[key]? = some own)
  (hinputs : ∀ a ∈ lost, a.path ∈ own.inputs)
include hc hown hinputs

/-- Nothing that the walk asks about is made by the action that lost it. -/
theorem Builder.Accounted.ne_of_mem_makersAt {builder : Builder}
    (h : builder.Accounted (p.trace (Build.world (.ofConfig c) reporter) b) lost) {a : Artifact}
    {answer : Except Failure (Option Producers)}
    (he : ⟨.discover a, answer⟩ ∈ p.trace (Build.world (.ofConfig c) reporter) b) {k : ActionKey}
    (hk : k ∈ c.makersAt a.path) : k ≠ key := by
  rintro rfl
  have hspread : builder.plan.SpreadsTo lost a := h.asked _ he
  exact hc.not_upstream hown hinputs (.maker (h.explained.upstream hspread) trivial hk)

/-- That action is not looked up. -/
theorem Builder.Accounted.lookup_notMem {builder : Builder}
    (h : builder.Accounted (p.trace (Build.world (.ofConfig c) reporter) b) lost)
    (answer : Except Failure { action : Action // action ∈ (Graph.ofConfig c).roster }) :
    ⟨.lookup key, answer⟩ ∉ p.trace (Build.world (.ofConfig c) reporter) b := by
  intro he
  have ⟨a, hfound⟩ : ∃ a, Discovered _ a key := h.asked _ he
  have ⟨_, hdiscover, _⟩ := hfound
  exact h.ne_of_mem_makersAt hc hown hinputs hdiscover hfound.mem_makersAt rfl

/-- It makes nothing that an evicted action needs, as what is evicted comes before it. -/
theorem Plan.Explained.not_transGen {plan : Plan}
    (h : plan.Explained (p.trace (Build.world (.ofConfig c) reporter) b) lost) {action : Action}
    (ha : action ∈ plan.additional) : ¬Relation.TransGen c.Precedes key action.key := by
  intro hpath
  obtain ⟨links, hchain, -⟩ := h.action action ha
  exact hc.acyclic key (hpath.trans (hchain.upstream.precedes hown hinputs))

end Inputs

/-! ### Sets of producers -/

/-- The actions that are found to make an artifact are its makers, whatever the build. -/
theorem mem_makersAt_of_producersOf {a : Artifact} {b : Build}
    {actions : List { action : Action // action ∈ (Graph.ofConfig c).roster }}
    (h : (exec (Build.world (.ofConfig c) reporter) (Walk.producersOf a) b).1 = .ok (some actions))
    {action : { action : Action // action ∈ (Graph.ofConfig c).roster }} (ha : action ∈ actions) :
    action.1.key ∈ c.makersAt a.path ∧ ∃ producers,
      b.evaluation.discover (.ofConfig c) a = .ok (some producers) ∧ action.1.key ∈ producers.keys ∧
      (Graph.ofConfig c).actions[action.1.key]? = some action.1 := by
  have hneeds : (b.queries (.ofConfig c)).Needs action.1.key [a] (.inl a) := .lost List.mem_cons_self
  obtain ⟨-, hfound⟩ :=
    Walk.yields_producersOf (Build.steady_world (.ofConfig c) reporter b) hneeds b rfl
  rw [h] at hfound
  obtain ⟨producers, hd, hactions⟩ := hfound
  have hmem : Except.ok action ∈ producers.keys.map (b.queries (.ofConfig c)).lookup :=
    hactions ▸ List.mem_map_of_mem ha
  obtain ⟨k, hk, hl⟩ := List.mem_map.1 hmem
  obtain rfl := keyed_queries b k action hl
  exact ⟨Config.mem_makersAt.2 ⟨producers, (Evaluation.discover_eq_some hd).1, hk⟩, producers, hd, hk,
    Graph.lookup_eq_ok.1 hl⟩

/-! ### Plans -/

/-- A plan is that of a finished walk from the artifacts that are responsible. -/
theorem exists_finished_of_planFor {failed : Action} {key : ActionKey} {directDeps : Std.ExtTreeSet Node}
    {loss : Loss} {runfiles : OwnerLookup} {plan : Plan}
    (h : (exec (Build.world (.ofConfig c) reporter)
      (planFor failed key directDeps loss runfiles) b).1 = .ok plan) :
    ∃ r builder, Ownership.resolve ⟨loss.owners, runfiles, directDeps⟩ failed.key loss.inputs = .ok r ∧
      plan = builder.plan ∧ builder.failed = key ∧
      Walk.Finished (b.queries (.ofConfig c)) (owners r) (owners r) builder := by
  obtain ⟨checked, t, hchecked, -, hexec⟩ :=
    exec_planFor (Build.files_world (.ofConfig c) reporter) failed key directDeps loss runfiles b
  rw [hexec] at h
  have hchecked : Checked reporter failed key directDeps loss runfiles b checked t := hchecked
  cases hchecked with
  | repeated _ _ _ => cases h
  | defect _ _ => cases h
  | sourceLost _ _ _ => cases h
  | @passed r _ hr _ =>
    have hsteady := Build.steady_world (.ofConfig c) reporter (b.recordEach key loss.digests)
    rw [Build.queries_recordEach] at hsteady
    obtain ⟨-, hfin⟩ := Walk.yields_rewindAll hsteady (keyed_queries b) key (owners r) _ rfl
    simp only [walkFrom, exec_bind, exec_adapt] at h
    generalize exec (Build.world (.ofConfig c) reporter) _ _ = result at h hfin
    obtain ⟨e | builder, b'⟩ := result
    · cases h
    · obtain ⟨hfin, hfailed⟩ := hfin
      exact ⟨r, builder, hr, (Except.ok.inj h).symm, hfailed, hfin⟩

/-- What makes an artifact that a finished plan spreads to is evicted, if it is not the failed action, or is
wanted along by an action that is evicted. -/
theorem Walk.Finished.evicts {q : Queries known} {builder : Builder} (h : Finished q lost lost builder)
    {a : Artifact} (ha : builder.plan.SpreadsTo lost a) {producers : Producers}
    (hd : q.discover a = .ok (some producers)) {action : { a : Action // a ∈ known }}
    (hk : action.1.key ∈ producers.keys) (hl : q.lookup action.1.key = .ok action)
    (hne : action.1.key ≠ builder.failed) :
    action.1 ∈ builder.plan.additional ∨
      ∃ other ∈ builder.plan.additional, action.1.node ∈ other.wanted := by
  have hcovers : builder.Covers q a := by
    obtain ha | ⟨other, ho, hp, hi⟩ := ha
    · exact h.covers ha
    · exact (h.settles ho).inputs hp hi
  obtain he | ⟨other, ho, he⟩ | hwanted := h.grounded.marked_action (hcovers.producers hd hk)
  · exact absurd he hne
  · obtain ⟨-, -, -, _, hl'⟩ := h.grounded.noted ho
    rw [he, hl] at hl'
    exact Or.inl ((congrArg Subtype.val (Except.ok.inj hl')) ▸ ho)
  · exact Or.inr hwanted

/-- **The failed action is not its own ancestor.** Let the artifacts that are responsible for a loss be inputs
of the failed action, in a build of an accepted description, whatever is done in it. Then no set of producers
that is found for an artifact of the walk contains the failed action, in this build or another, and that is
not looked up. So what the walk finds is evicted, or wanted along by what is evicted, and the failed action
makes nothing that an evicted action needs. -/
theorem not_ancestor_of_planFor {d : Description} (hd : d.validate = .ok c) {key : ActionKey}
    {failed : Action} (hf : (Graph.ofConfig c).actions[key]? = some failed) (reporter : Reporter) (b : Build)
    {directDeps : Std.ExtTreeSet Node} {loss : Loss} {runfiles : OwnerLookup}
    (hin : ∀ r, Ownership.resolve ⟨loss.owners, runfiles, directDeps⟩ failed.key loss.inputs = .ok r →
      ∀ a ∈ owners r, a.node ∈ failed.directDeps)
    {events : List (Answered (Graph.ofConfig c).roster)}
    (hevents : events = (planFor failed key directDeps loss runfiles).run.trace
      (Build.world (.ofConfig c) reporter) b) :
    (∀ a answer, ⟨.discover a, answer⟩ ∈ events → ∀ b' actions,
      (exec (Build.world (.ofConfig c) reporter) (Walk.producersOf a) b').1 = .ok (some actions) →
      ∀ action ∈ actions, action.1.key ≠ key) ∧
    (∀ answer, ⟨.lookup key, answer⟩ ∉ events) ∧
    ∀ plan, (exec (Build.world (.ofConfig c) reporter)
        (planFor failed key directDeps loss runfiles) b).1 = .ok plan →
      (∀ a answer, ⟨.discover a, answer⟩ ∈ events → ∀ actions,
        (exec (Build.world (.ofConfig c) reporter) (Walk.producersOf a) b).1 = .ok (some actions) →
        ∀ action ∈ actions, action.1 ∈ plan.additional ∨
          ∃ other ∈ plan.additional, action.1.node ∈ other.wanted) ∧
      ∀ action ∈ plan.additional, ¬Relation.TransGen c.Precedes key action.key := by
  have hc := Description.accepted_of_validate hd
  have hkeyed : ∀ k s action, ((Build.world (.ofConfig c) reporter).answer (.lookup k) s).1 = .ok action →
      action.1.key = k := fun _ s _ h => keyed_queries s _ _ h
  obtain ⟨hquiet, hnone⟩ | ⟨r, builder, hr, hacc, hplan⟩ :=
    accounted_of_planFor hkeyed failed key directDeps loss runfiles b
  · subst hevents
    exact ⟨fun a answer h => Bool.noConfusion (hquiet _ h), fun answer h => Bool.noConfusion (hquiet _ h),
      fun plan h => absurd h (hnone plan)⟩
  subst hevents
  obtain ⟨own, hown, rfl⟩ := Graph.exists_of_getElem?_actions hf
  have hinputs : ∀ a ∈ owners r, a.path ∈ own.inputs := fun a ha =>
    Graph.path_mem_inputs_of_directDeps (hin r hr a ha)
  refine ⟨fun a answer he b' actions hactions action ha => ?_, hacc.lookup_notMem hc hown hinputs,
    fun plan h => ⟨fun a answer he actions hactions action ha => ?_, fun action ha => ?_⟩⟩
  · exact hacc.ne_of_mem_makersAt hc hown hinputs he (mem_makersAt_of_producersOf hactions ha).1
  · obtain ⟨rfl, -⟩ := hplan plan h
    obtain ⟨r', builder', hr', hsame, hfailed, hfin⟩ := exists_finished_of_planFor h
    obtain rfl : r = r' := Except.ok.inj (hr.symm.trans hr')
    obtain ⟨hmaker, producers, hd, hk, hl⟩ := mem_makersAt_of_producersOf hactions ha
    have hne := hacc.ne_of_mem_makersAt hc hown hinputs he hmaker
    have hspread : builder.plan.SpreadsTo (owners r) a := hacc.asked _ he
    rw [hsame] at hspread ⊢
    exact hfin.evicts hspread hd hk (Graph.lookup_eq_ok.2 hl) (hfailed ▸ hne)
  · obtain ⟨rfl, -⟩ := hplan plan h
    exact hacc.explained.not_transGen hc hown hinputs ha

/-- What makes `out/s` is not done, so the walk does not go on from there. -/
theorem not_ancestor_of_planFor_passing : ∃ c failed plan,
    Description.passing.validate = .ok c ∧
    (Graph.ofConfig c).actions[(⟨"//f", 0⟩ : ActionKey)]? = some failed ∧
    (∀ r, Ownership.resolve ⟨Loss.passing.owners, (∅ : Owners), failed.directDeps⟩ failed.key
      Loss.passing.inputs = .ok r → ∀ a ∈ owners r, a.node ∈ failed.directDeps) ∧
    (exec (Build.world (.ofConfig c) .log) (planFor failed ⟨"//f", 0⟩ failed.directDeps .passing
      (∅ : Owners)) .passing).1 = .ok plan ∧
    plan.additionalKeys = [⟨"//p", 0⟩, ⟨"//q", 0⟩, ⟨"//q", 1⟩] ∧
    (∀ a answer, ⟨.discover a, answer⟩ ∈ (planFor failed ⟨"//f", 0⟩ failed.directDeps .passing
        (∅ : Owners)).run.trace (Build.world (.ofConfig c) .log) .passing → ∀ b actions,
      (exec (Build.world (.ofConfig c) .log) (Walk.producersOf a) b).1 = .ok (some actions) →
      ∀ action ∈ actions, action.1.key ≠ ⟨"//f", 0⟩) ∧
    ∀ action ∈ plan.additional, ¬Relation.TransGen c.Precedes ⟨"//f", 0⟩ action.key := by
  have hd : Description.passing.validate = .ok Description.passing.accepted :=
    Description.validate_eq_accepted (by decide +kernel)
  have hkeys : ((Graph.ofConfig Description.passing.accepted).actions[(⟨"//f", 0⟩ : ActionKey)]?.bind
      fun failed => (exec (Build.world (.ofConfig Description.passing.accepted) .log) (planFor failed
        ⟨"//f", 0⟩ failed.directDeps .passing (∅ : Owners)) .passing).1.toOption.map
        Plan.additionalKeys) = some [⟨"//p", 0⟩, ⟨"//q", 0⟩, ⟨"//q", 1⟩] := by
    decide +kernel
  obtain ⟨failed, hf, h⟩ := Option.bind_eq_some_iff.1 hkeys
  obtain ⟨plan, hplan, hkeys⟩ := Option.map_eq_some_iff.1 h
  have hplan := eq_ok_of_toOption hplan
  have hin : ∀ r, Ownership.resolve ⟨Loss.passing.owners, (∅ : Owners), failed.directDeps⟩ failed.key
      Loss.passing.inputs = .ok r → ∀ a ∈ owners r, a.node ∈ failed.directDeps := fun r hr a ha =>
    Std.ExtTreeSet.contains_iff_mem.1 (Ownership.isDirect_of_resolve hr (mem_owners.1 ha))
  obtain ⟨hproducers, -, hrest⟩ := not_ancestor_of_planFor hd hf .log .passing hin rfl
  exact ⟨_, failed, plan, hd, hf, hin, hplan, hkeys, hproducers, (hrest plan hplan).2⟩

end Rewinding
