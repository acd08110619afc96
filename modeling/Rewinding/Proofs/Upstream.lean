import Rewinding.Proofs.Handling
import Rewinding.Proofs.Structure

/-!
# What is upstream of lost inputs

`Config.Upstream` follows makers, and inputs of actions that pass them on, through the whole
description: which nodes happen to be done plays no role. A failed action is never upstream of its
own inputs, and a walk from them restarts what is upstream as far as it goes on (`Config.Passes`):

* it stops at an artifact some maker of which is not done, as that is being restarted already;
* it stops at an action that is overtaken: restarted because another one wants it along, before it is
  met as a maker.
-/

namespace Rewinding

open Planning

/-! ### The closure in a description -/

namespace Config

/-- The nodes upstream of some artifacts that are reached through nodes that satisfy `through`. -/
inductive Upstream (c : Config) (through : Node → Prop) (lost : List Artifact) : Node → Prop where
  | lost {a : Artifact} : a ∈ lost → Upstream c through lost (.artifact a.path)
  | maker {path : String} {k : ActionKey} : Upstream c through lost (.artifact path) →
      through (.artifact path) → k ∈ c.makersAt path → Upstream c through lost (.action k)
  | input {k : ActionKey} {declared : ActionSection} {path : String} :
      Upstream c through lost (.action k) → through (.action k) →
      c.actions[k]? = some declared → declared.propagates → path ∈ declared.inputs →
      (c.artifactFor path).isSource = false → Upstream c through lost (.artifact path)

variable {c : Config} {lost : List Artifact}

/-- What is upstream through some nodes is upstream through others that are passed as well. -/
theorem Upstream.through {p q : Node → Prop} (h : ∀ n, c.Upstream p lost n → p n → q n) {n : Node}
    (hn : c.Upstream p lost n) : c.Upstream q lost n := by
  induction hn with
  | lost ha => exact .lost ha
  | maker hu hp hk ih => exact .maker ih (h _ hu hp) hk
  | input hu hp ht hprop hi hs ih => exact .input ih (h _ hu hp) ht hprop hi hs

/-- What is upstream of inputs of an action comes before that action. -/
theorem Upstream.precedes {through : Node → Prop} {failed : ActionKey} {own : ActionSection}
    (hf : c.actions[failed]? = some own) (hl : ∀ a ∈ lost, a.path ∈ own.inputs) {n : Node}
    (hn : c.Upstream through lost n) :
    match n with
    | .artifact path => ∃ k declared, c.actions[k]? = some declared ∧ path ∈ declared.inputs ∧
        (k = failed ∨ Relation.TransGen c.Precedes k failed)
    | .action k => Relation.TransGen c.Precedes k failed
    | .other _ => False := by
  induction hn with
  | lost ha => exact ⟨failed, own, hf, hl _ ha, Or.inl rfl⟩
  | @maker path k _ _ hk ih =>
    obtain ⟨k', declared, ht, hp, hk'⟩ := ih
    have hstep : c.Precedes k k' := ⟨declared, path, ht, hp, mem_makersOf_of_mem_makersAt hk⟩
    obtain rfl | hk' := hk'
    · exact .single hstep
    · exact .head hstep hk'
  | @input k declared path _ _ ht _ hi _ ih => exact ⟨k, declared, ht, hi, Or.inr ih⟩

/-- No action is upstream of its own inputs. -/
theorem Accepted.not_upstream (hc : c.Accepted) {through : Node → Prop} {failed : ActionKey}
    {own : ActionSection} (hf : c.actions[failed]? = some own)
    (hl : ∀ a ∈ lost, a.path ∈ own.inputs) : ¬c.Upstream through lost (.action failed) :=
  fun h => hc.acyclic failed (h.precedes hf hl)

end Config

/-! ### Lost inputs belong to inputs -/

theorem Config.path_artifactFor (c : Config) (path : String) : (c.artifactFor path).path = path := by
  unfold artifactFor
  split <;> rfl

theorem Graph.path_mem_inputs_of_directDeps {c : Config}
    {artifacts : Std.ExtTreeMap String Artifact} {k : ActionKey} {declared : ActionSection}
    {a : Artifact}
    (h : a.node ∈ (actionOf c artifacts k declared).directDeps) : a.path ∈ declared.inputs := by
  unfold Action.directDeps actionOf at h
  rw [Std.ExtTreeSet.mem_ofList, List.contains_iff_mem, List.mem_map] at h
  obtain ⟨i, hi, he⟩ := h
  obtain ⟨path, hp, rfl⟩ := List.mem_map.1 hi
  have ha := Node.artifact.inj he
  rw [c.path_artifactFor path] at ha
  exact ha ▸ hp

/-- What an upstream action of the graph passes on is upstream. -/
theorem Config.Upstream.passes {c : Config} {through : Node → Prop} {lost : List Artifact} {k : ActionKey}
    (hk : c.Upstream through lost (.action k)) (ht : through (.action k)) {action : Action}
    (ha : (Graph.ofConfig c).actions[k]? = some action) (hp : action.propagates) {i : Artifact}
    (hi : i ∈ action.derivedInputs) : c.Upstream through lost i.node := by
  obtain ⟨declared, hd, rfl⟩ := Graph.exists_of_getElem?_actions ha
  obtain ⟨path, hpath, hs, rfl⟩ := Graph.mem_derivedInputs_actionOf.1 hi
  have hup := Upstream.input hk ht hd hp hpath hs
  rwa [← c.path_artifactFor path] at hup

/-! ### How far a walk goes -/

/-- An action is restarted because another one wants it along, and yet not evicted. -/
def Plan.Overtakes (p : Plan) (k : ActionKey) : Prop :=
  .action k ∈ p.restart.nodes ∧ k ∉ p.additionalKeys ∧
    ∃ action ∈ p.additional, .action k ∈ action.wanted

/-- Where a walk that ends with `plan` goes on, from what is done to what makes it. -/
def Config.Passes (c : Config) (e : Evaluation) (plan : Plan) : Node → Prop
  | .artifact path => ∀ k ∈ c.makersAt path, e.isDone (.action k) = true
  | .action k => ¬plan.Overtakes k
  | .other _ => True

namespace Walk.Finished

variable {c : Config} {b : Build} {lost : List Artifact} {builder : Builder}

/-- Where all makers of a covered artifact are done, they are restarted. -/
theorem marked_of_covers (hc : c.Accepted) {a : Artifact}
    (ha : builder.Covers (b.queries (.ofConfig c)) a) {k : ActionKey} (hk : k ∈ c.makersAt a.path)
    (hd : ∀ k ∈ c.makersAt a.path, b.evaluation.isDone (.action k) = true) :
    .action k ∈ builder.marked := by
  obtain ⟨producers, hp, hk⟩ := Config.mem_makersAt.1 hk
  refine ha.producers (Evaluation.discover_of_isDone hc hp fun k' hk' => ?_) hk
  exact hd k' (Config.mem_makersAt.2 ⟨producers, hp, hk'⟩)

/-- Nothing is needed that is not upstream. -/
theorem upstream_of_needs {failed : ActionKey} {x : Artifact ⊕ ActionKey}
    (hx : (b.queries (.ofConfig c)).Needs failed lost x) :
    c.Upstream (fun _ => True) lost (x.elim Artifact.node .action) := by
  induction hx with
  | lost ha => exact .lost ha
  | producer _ hd hk ih =>
    obtain ⟨hp, -⟩ := Evaluation.discover_eq_some hd
    exact .maker ih trivial (Config.mem_makersAt.2 ⟨_, hp, hk⟩)
  | input _ _ hl hp hi ih => exact ih.passes trivial (Graph.lookup_eq_ok.1 hl) hp hi

variable (h : Finished (b.queries (.ofConfig c)) lost lost builder)
include h

/-- A restarted action is evicted, unless it is overtaken or the failed one. -/
theorem exists_noted {k : ActionKey} (hm : .action k ∈ builder.marked) (hne : k ≠ builder.failed)
    (ho : ¬builder.plan.Overtakes k) : ∃ action ∈ builder.noted, action.key = k := by
  obtain he | hn | hw := h.grounded.marked_action hm
  · exact absurd he hne
  · exact hn
  · apply Decidable.byContradiction
    intro hnone
    refine ho ⟨Builder.mem_nodes_plan.2 (Or.inr hm), fun hk => hnone ?_, hw⟩
    exact List.mem_map.1 hk

theorem eq_actionOf {action : Action} (ha : action ∈ builder.noted) :
    ∃ declared, c.actions[action.key]? = some declared ∧
      action = Graph.actionOf c (Graph.ofConfig c).artifacts action.key declared := by
  obtain ⟨-, -, -, _, hl⟩ := h.grounded.noted ha
  exact Graph.exists_of_getElem?_actions (Graph.lookup_eq_ok.1 hl)

/-- Inputs that an evicted action passes on are covered. -/
theorem covers_input {action : Action} (ha : action ∈ builder.noted) {declared : ActionSection}
    (ht : c.actions[action.key]? = some declared) (hp : declared.propagates) {path : String}
    (hi : path ∈ declared.inputs) (hs : (c.artifactFor path).isSource = false) :
    builder.Covers (b.queries (.ofConfig c)) (c.artifactFor path) := by
  obtain ⟨declared', ht', heq⟩ := h.eq_actionOf ha
  rw [ht] at ht'
  obtain rfl := Option.some.inj ht'
  refine (h.settles ha).inputs ?_ ?_
  · rw [heq]
    exact hp
  · rw [heq]
    exact Graph.mem_derivedInputs_actionOf.2 ⟨path, hi, hs, rfl⟩

/-- **A walk restarts what is upstream, as far as it goes on.** -/
theorem marked_of_upstream (hc : c.Accepted)
    (hf : ¬c.Upstream (c.Passes b.evaluation builder.plan) lost (.action builder.failed)) {n : Node}
    (hn : c.Upstream (c.Passes b.evaluation builder.plan) lost n) :
    match n with
    | .artifact path => ∃ a, a.path = path ∧ builder.Covers (b.queries (.ofConfig c)) a
    | .action k => .action k ∈ builder.marked
    | .other _ => False := by
  induction hn with
  | lost ha => exact ⟨_, rfl, h.covers ha⟩
  | maker _ hp hk ih =>
    obtain ⟨a, rfl, ha⟩ := ih
    exact marked_of_covers hc ha hk hp
  -- a marked action is noted, unless it is overtaken, and what is noted is settled
  | @input k declared path hu hp ht hprop hi hs ih =>
    have hne : k ≠ builder.failed := by
      rintro rfl
      exact hf hu
    obtain ⟨action, ha, rfl⟩ := h.exists_noted ih hne hp
    refine ⟨c.artifactFor path, c.path_artifactFor path, ?_⟩
    exact h.covers_input ha ht hprop hi hs

end Walk.Finished

/-! ### Rewinds on the graph of an accepted description -/

theorem Graph.key_of_getElem?_actions {c : Config} {k : ActionKey} {action : Action}
    (h : (ofConfig c).actions[k]? = some action) : action.key = k := by
  obtain ⟨declared, -, rfl⟩ := exists_of_getElem?_actions h
  rfl

/-- What accounts for a loss is an input of the failed action. -/
theorem Session.path_mem_inputs_of_responsible? {c : Config} {s : Session} (hg : s.graph = .ofConfig c)
    {key : ActionKey} {loss : Loss} {lost : List Artifact} (h : s.responsible? key loss = some lost) :
    ∃ own, c.actions[key]? = some own ∧ ∀ a ∈ lost, a.path ∈ own.inputs := by
  obtain ⟨failed, r, hf, hr, rfl⟩ := responsible?_eq_some.1 h
  rw [hg] at hf
  obtain ⟨own, hown, rfl⟩ := Graph.exists_of_getElem?_actions hf
  refine ⟨own, hown, fun a ha => ?_⟩
  exact Graph.path_mem_inputs_of_directDeps (Ownership.isDirect_of_resolve hr (mem_owners.1 ha))

/-- A handling that succeeds has rewound the failed action, and that one is not upstream of what it
lost. -/
theorem Session.exists_rewound_ofConfig {c : Config} (hc : c.Accepted) {s : Session}
    (hg : s.graph = .ofConfig c) {key : ActionKey} {loss : Loss} {o : Outcome}
    (ho : (s.handle key loss).1 = .ok o) :
    ∃ lost builder, s.responsible? key loss = some lost ∧ o.plan = builder.plan ∧
      Build.Rewound (.ofConfig c) key lost builder s.build (s.handle key loss).2.build ∧
      ∀ through, ¬c.Upstream through lost (.action key) := by
  -- the graph finds actions under their own keys, as sections are stored under them
  have hkeys : ∀ k (action : Action), s.graph.actions[k]? = some action → action.key = k := by
    rw [hg]
    exact fun k action => Graph.key_of_getElem?_actions
  obtain ⟨lost, builder, hlost, hplan, hrewound⟩ := exists_rewound hkeys ho
  obtain ⟨own, hown, hinputs⟩ := path_mem_inputs_of_responsible? hg hlost
  exact ⟨lost, builder, hlost, hplan, hg ▸ hrewound, fun through => hc.not_upstream hown hinputs⟩

/-! ### Where all nodes are done -/

namespace Evaluation

theorem isDone_complete {e : Evaluation} {node n : Node} :
    (e.complete node).isDone n = true ↔ node = n ∨ e.isDone n = true := by
  simp [isDone, complete]

theorem isDone_foldl_complete {e : Evaluation} {nodes : List Node} {n : Node} :
    (nodes.foldl complete e).isDone n = true ↔ n ∈ nodes ∨ e.isDone n = true := by
  induction nodes generalizing e with
  | nil => simp
  | cons node nodes ih =>
    rw [List.foldl_cons, ih, isDone_complete, List.mem_cons]
    constructor
    · rintro (h | rfl | h)
      · exact Or.inl (Or.inr h)
      · exact Or.inl (Or.inl rfl)
      · exact Or.inr h
    · rintro ((rfl | h) | h)
      · exact Or.inr (Or.inl rfl)
      · exact Or.inl h
      · exact Or.inr (Or.inr h)

end Evaluation

/-- What a description is checked to, where it is accepted. -/
def Description.accepted (d : Description) : Config :=
  match d.validate with
  | .ok c => c
  | .error _ =>
    { settings := d.settings, artifacts := ∅, actions := ∅, makers := ∅, expansions := ∅ }

theorem Description.validate_eq_accepted {d : Description} (h : d.validate.toOption.isSome = true) :
    d.validate = .ok d.accepted := by
  unfold accepted
  split
  case h_1 hc => exact hc
  case h_2 hc =>
    rw [hc] at h
    cases h

/-- A session on the graph of a description with all nodes done and all actions executed. -/
def Session.ready (c : Config) (reporter : Reporter) : Session :=
  Session.seedCache <| Session.completeAll
    { graph := .ofConfig c, reporter, maxRewinds := c.settings.maxRewinds }

/-- Remembering executions completes and restarts nothing. -/
theorem Build.evaluation_foldl_cacheResult (digests : Build → Action → List String)
    (actions : List Action) (b : Build) :
    (actions.foldl (fun b a => b.cacheResult a.key (digests b a)) b).evaluation = b.evaluation := by
  induction actions generalizing b with
  | nil => rfl
  | cons a actions ih => exact ih _

theorem Session.evaluation_seedCache (s : Session) :
    s.seedCache.build.evaluation = s.build.evaluation :=
  Build.evaluation_foldl_cacheResult
    (fun b a => a.outputs.filterMap fun o : Artifact => b.evaluation.value? o.node)
    s.graph.roster s.build

theorem Session.isDone_completeAll {s : Session} {n : Node} (hn : n ∈ s.graph.nodes) :
    s.completeAll.build.evaluation.isDone n = true := by
  show (s.graph.nodes.foldl Evaluation.complete s.build.evaluation).isDone n = true
  exact Evaluation.isDone_foldl_complete.2 (Or.inl hn)

theorem Session.isDone_ready {c : Config} {reporter : Reporter} {n : Node}
    (hn : n ∈ (ready c reporter).graph.nodes) :
    (ready c reporter).build.evaluation.isDone n = true := by
  have hg : (ready c reporter).graph = .ofConfig c := rfl
  rw [hg] at hn
  unfold ready
  rw [evaluation_seedCache]
  exact isDone_completeAll hn

end Rewinding
