import Rewinding.Proofs.Walk
import Rewinding.Rehearsal

/-!
# The plan is the closure

Where no action wants another action restarted along, the gap that `Proofs/Walk` leaves is closed,
and the plan of a walk is the least closure in both directions. Makers may be in a cycle, an artifact
may be lost more than once, and the failed action may be needed itself.

The theorem is about any steady world. Rehearsals that are never cancelled are such worlds.
-/

namespace Rewinding

open Builder Walk

variable {known : List Action} {σ : Type}

/-- A finished plan that wants no action along holds what is needed, all of it and nothing else. -/
theorem Walk.Finished.mem_nodes_iff {q : Queries known} {lost : List Artifact} {b : Builder}
    (h : Finished q lost lost b) (hn : ∀ action ∈ b.noted, ∀ k, .action k ∉ action.wanted)
    {n : Node} :
    n ∈ b.plan.restart.nodes ↔ n = .action b.failed ∨
      (∃ a, q.Needs b.failed lost (.inl a) ∧ n = a.node) ∨
      (∃ k, q.Needs b.failed lost (.inr k) ∧ n = .action k) ∨
      ∃ action ∈ b.noted, n ∈ action.wanted := by
  rw [mem_nodes_plan]
  constructor
  · rintro (rfl | hm)
    · exact Or.inl rfl
    obtain rfl | ha | ⟨action, ha, rfl | hw⟩ := h.grounded.marked hm
    · exact Or.inl rfl
    · exact Or.inr (Or.inl ha)
    · obtain ⟨-, -, hneeds, -⟩ := h.grounded.noted ha
      exact Or.inr (Or.inr (Or.inl ⟨action.key, hneeds, rfl⟩))
    · exact Or.inr (Or.inr (Or.inr ⟨action, ha, hw⟩))
  · rintro (rfl | ⟨a, ha, rfl⟩ | ⟨k, hk, rfl⟩ | ⟨action, ha, hw⟩)
    · exact Or.inl rfl
    · exact Or.inr (h.of_needs hn ha).node
    · exact Or.inr (h.of_needs hn hk)
    · exact Or.inr ((h.settles ha).wanted hw)

/-- A finished plan that wants no action along notes the needed actions, save for the failed one. -/
theorem Walk.Finished.mem_noted_iff {q : Queries known} {lost : List Artifact} {b : Builder}
    (h : Finished q lost lost b) (hn : ∀ action ∈ b.noted, ∀ k, .action k ∉ action.wanted)
    (action : Action) :
    action ∈ b.noted ↔ ∃ k found, q.Needs b.failed lost (.inr k) ∧ k ≠ b.failed ∧
      q.lookup k = .ok found ∧ found.1 = action := by
  constructor
  · intro ha
    obtain ⟨-, hne, hneeds, hk, hlookup⟩ := h.grounded.noted ha
    exact ⟨action.key, ⟨action, hk⟩, hneeds, hne, hlookup, rfl⟩
  · rintro ⟨k, found, hneeds, hne, hlookup, rfl⟩
    obtain rfl | ⟨other, ho, rfl⟩ | ⟨other, ho, hw⟩ :=
      h.grounded.marked_action (h.of_needs hn hneeds)
    · exact absurd rfl hne
    · obtain ⟨-, -, -, _, hl'⟩ := h.grounded.noted ho
      rw [hlookup] at hl'
      exact Except.ok.inj hl' ▸ ho
    · exact absurd hw (hn other ho k)

/-! ### Rehearsals -/

namespace Rehearsal

/-- The answers that were written down. -/
def queries (r : Rehearsal) : Queries r.actions := { discover := r.discover, lookup := r.lookup }

theorem keyed_queries (r : Rehearsal) : r.queries.Keyed := by
  intro k action h
  have hl : r.lookup k = .ok action := h
  unfold lookup at hl
  split at hl
  case h_1 a ha =>
    obtain rfl := Except.ok.inj hl
    simpa using List.find?_some ha
  case h_2 => cases hl

/-- A rehearsal that is never cancelled stays as it is. -/
theorem steady_world {r : Rehearsal} (h : r.cancelAfter = none) :
    r.world.Steady (fun state => state.build.interrupted = false) r.queries where
  interrupted hs := ⟨hs, hs⟩
  discover artifact hs := by
    refine ⟨rfl, ?_⟩
    simpa [world, query?, State.ask, Build.answer, h] using hs
  lookup key hs := by
    refine ⟨rfl, ?_⟩
    simpa [world, query?, State.ask, Build.answer, h] using hs

end Rehearsal

/-! ### The closure, listed -/

/-- Whether a list holds the lost artifacts and with everything in it what that needs next, where
every query about it is answered. -/
def Queries.closes (q : Queries known) (failed : ActionKey) (lost : List Artifact)
    (items : List (Artifact ⊕ ActionKey)) : Bool :=
  (lost.all fun a => items.any (· = .inl a)) && items.all fun
    | .inl a =>
      match q.discover a with
      | .ok found => found.all fun producers => producers.keys.all fun k => items.any (· = .inr k)
      | .error _ => false
    | .inr k =>
      match q.lookup k with
      | .ok action => k = failed || !action.1.propagates ||
          action.1.derivedInputs.all fun i => items.any (· = .inl i)
      | .error _ => false

/-- Such a list holds everything that is needed. -/
theorem Queries.Needs.mem_of_closes {q : Queries known} {failed : ActionKey} {lost : List Artifact}
    {items : List (Artifact ⊕ ActionKey)} (h : q.closes failed lost items) {x : Artifact ⊕ ActionKey}
    (hx : q.Needs failed lost x) : x ∈ items := by
  simp only [closes, Bool.and_eq_true, List.all_eq_true, List.any_eq_true, decide_eq_true_eq,
    exists_eq_right] at h
  obtain ⟨hlost, hnext⟩ := h
  induction hx with
  | lost ha => exact hlost _ ha
  | producer _ hd hk ih =>
    have := hnext _ ih
    simp only [hd, Option.all_some, List.all_eq_true, List.any_eq_true, decide_eq_true_eq,
      exists_eq_right] at this
    exact this _ hk
  | input _ hne hl hp hi ih =>
    have := hnext _ ih
    simp only [hl, hne, hp, decide_false, Bool.not_true, Bool.false_or, List.all_eq_true,
      List.any_eq_true, decide_eq_true_eq, exists_eq_right] at this
    exact this _ hi

theorem Queries.discover_of_closes {q : Queries known} {failed : ActionKey} {lost : List Artifact}
    {items : List (Artifact ⊕ ActionKey)} (h : q.closes failed lost items) {a : Artifact}
    (ha : q.Needs failed lost (.inl a)) : ∃ found, q.discover a = .ok found := by
  have hmem := ha.mem_of_closes h
  simp only [closes, Bool.and_eq_true, List.all_eq_true] at h
  have := h.2 _ hmem
  cases hd : q.discover a with
  | ok found => exact ⟨found, rfl⟩
  | error failure => simp [hd] at this

theorem Queries.lookup_of_closes {q : Queries known} {failed : ActionKey} {lost : List Artifact}
    {items : List (Artifact ⊕ ActionKey)} (h : q.closes failed lost items) {k : ActionKey}
    (hk : q.Needs failed lost (.inr k)) : ∃ action, q.lookup k = .ok action := by
  have hmem := hk.mem_of_closes h
  simp only [closes, Bool.and_eq_true, List.all_eq_true] at h
  have := h.2 _ hmem
  cases hl : q.lookup k with
  | ok action => exact ⟨action, rfl⟩
  | error failure => simp [hl] at this

/-! ### The theorem -/

/-- **The walk computes the least closure.** In a steady world that is not cancelled, whose queries
about what is needed are answered, and in which no needed action wants an action along, walking from
the `lost` artifacts into one plan for `failed` ends with a plan that

* restarts the failed action, the needed artifacts and actions, and what the needed actions other
  than the failed one want along, and
* evicts the needed actions other than the failed one, each once. -/
theorem plan_rewindAll_iff_needs {world : World known σ} {calm : σ → Prop} {q : Queries known}
    (hw : world.Steady calm q) (hc : q.cancelled = false) (hq : q.Keyed) (failed : ActionKey)
    (lost : List Artifact)
    (hd : ∀ a, q.Needs failed lost (.inl a) → ∃ found, q.discover a = .ok found)
    (hl : ∀ k, q.Needs failed lost (.inr k) → ∃ action, q.lookup k = .ok action)
    (hn : ∀ k action, q.Needs failed lost (.inr k) → q.lookup k = .ok action →
      ∀ k', .action k' ∉ action.1.wanted)
    {s : σ} (hs : calm s) :
    ∃ b, ((rewindAll (Builder.start failed) lost).run.run world s).1 = .ok b ∧
      (∀ n, n ∈ b.plan.restart.nodes ↔ n = .action failed ∨
        (∃ a, q.Needs failed lost (.inl a) ∧ n = a.node) ∨
        (∃ k, q.Needs failed lost (.inr k) ∧ n = .action k) ∨
        ∃ k action, q.Needs failed lost (.inr k) ∧ k ≠ failed ∧ q.lookup k = .ok action ∧
          n ∈ action.1.wanted) ∧
      (∀ action, action ∈ b.plan.additional ↔ ∃ k found, q.Needs failed lost (.inr k) ∧
        k ≠ failed ∧ q.lookup k = .ok found ∧ found.1 = action) ∧
      b.plan.additionalKeys.Nodup := by
  obtain ⟨-, h⟩ := yields_rewindAll hw hq failed lost s hs
  unfold Procedure.exec at h
  generalize ((rewindAll (Builder.start failed) lost).run.run world s).1 = result at h ⊢
  cases result with
  | error e =>
    obtain ⟨stop, b⟩ := e
    replace h : q.Faulty failed lost stop := h
    cases h with
    | cancelled h =>
      rw [hc] at h
      cases h
    | undiscovered ha hf =>
      obtain ⟨found, hfound⟩ := hd _ ha
      rw [hf] at hfound
      cases hfound
    | unfound hk hf =>
      obtain ⟨action, haction⟩ := hl _ hk
      rw [hf] at haction
      cases haction
  | ok b =>
    obtain ⟨hfin, rfl⟩ := h
    have hnone : ∀ action ∈ b.noted, ∀ k, .action k ∉ action.wanted := by
      intro action ha
      obtain ⟨-, -, hneeds, hk, hlookup⟩ := hfin.grounded.noted ha
      exact hn action.key ⟨action, hk⟩ hneeds hlookup
    have hnoted := hfin.mem_noted_iff hnone
    refine ⟨b, rfl, fun n => ?_, hnoted, hfin.grounded.nodup⟩
    rw [hfin.mem_nodes_iff hnone]
    simp only [hnoted]
    constructor
    · rintro (h | h | h | ⟨action, ⟨k, found, hneeds, hne, hlookup, rfl⟩, hwanted⟩)
      · exact Or.inl h
      · exact Or.inr (Or.inl h)
      · exact Or.inr (Or.inr (Or.inl h))
      · exact Or.inr (Or.inr (Or.inr ⟨k, found, hneeds, hne, hlookup, hwanted⟩))
    · rintro (h | h | h | ⟨k, found, hneeds, hne, hlookup, hwanted⟩)
      · exact Or.inl h
      · exact Or.inr (Or.inl h)
      · exact Or.inr (Or.inr (Or.inl h))
      · exact Or.inr (Or.inr (Or.inr ⟨found.1, ⟨k, found, hneeds, hne, hlookup, rfl⟩, hwanted⟩))

/-- A rehearsal in which a tree is made by the failed action and by another one that needs that tree
to be made again; the failed action also reads something that is not done. -/
def Rehearsal.circle : Rehearsal where
  actions :=
    [{ key := ⟨"//f", 0⟩, inputs := [⟨"t", .tree⟩, ⟨"y", .derived⟩], propagates := true },
     { key := ⟨"//q", 0⟩, inputs := [⟨"x", .derived⟩, ⟨"s", .source⟩], propagates := true,
       rewindDeps := some [.artifact "x", .other "aspect"] },
     { key := ⟨"//r", 0⟩, inputs := [⟨"t", .tree⟩], propagates := true }]
  dependencies := Std.ExtTreeMap.ofList (β := Option Producers)
    [("t", some (.expansion (.ofList [(⟨"//q", 0⟩ : ActionKey), ⟨"//f", 0⟩]))),
     ("x", some (.single ⟨"//r", 0⟩)),
     ("y", none)]

/-- What is lost in it: the tree, twice, and what is not done. -/
def Rehearsal.circleLost : List Artifact := [⟨"t", .tree⟩, ⟨"y", .derived⟩, ⟨"t", .tree⟩]

example : ((rewindAll (Builder.start ⟨"//f", 0⟩) Rehearsal.circleLost).run.run
      Rehearsal.circle.world {}).1.toOption.map (fun b => b.plan.restart.nodes) =
    some [.action ⟨"//f", 0⟩, .artifact "t", .artifact "x", .artifact "y", .action ⟨"//q", 0⟩,
      .action ⟨"//r", 0⟩, .other "aspect"] := by
  decide +kernel

theorem plan_rewindAll_circle :
    ∃ b, ((rewindAll (Builder.start ⟨"//f", 0⟩) Rehearsal.circleLost).run.run
        Rehearsal.circle.world {}).1 = .ok b ∧
      (∀ n, n ∈ b.plan.restart.nodes ↔ n = .action ⟨"//f", 0⟩ ∨
        (∃ a, Rehearsal.circle.queries.Needs ⟨"//f", 0⟩ Rehearsal.circleLost (.inl a) ∧ n = a.node) ∨
        (∃ k, Rehearsal.circle.queries.Needs ⟨"//f", 0⟩ Rehearsal.circleLost (.inr k) ∧
          n = .action k) ∨
        ∃ k action, Rehearsal.circle.queries.Needs ⟨"//f", 0⟩ Rehearsal.circleLost (.inr k) ∧
          k ≠ ⟨"//f", 0⟩ ∧ Rehearsal.circle.queries.lookup k = .ok action ∧ n ∈ action.1.wanted) ∧
      (∀ action, action ∈ b.plan.additional ↔
        ∃ k found, Rehearsal.circle.queries.Needs ⟨"//f", 0⟩ Rehearsal.circleLost (.inr k) ∧
          k ≠ ⟨"//f", 0⟩ ∧ Rehearsal.circle.queries.lookup k = .ok found ∧ found.1 = action) ∧
      b.plan.additionalKeys.Nodup := by
  have hc : Rehearsal.circle.queries.closes ⟨"//f", 0⟩ Rehearsal.circleLost
      [.inl ⟨"t", .tree⟩, .inl ⟨"x", .derived⟩, .inl ⟨"y", .derived⟩, .inr ⟨"//f", 0⟩,
        .inr ⟨"//q", 0⟩, .inr ⟨"//r", 0⟩] := by decide +kernel
  have hn : ∀ action ∈ Rehearsal.circle.actions, ∀ n ∈ action.wanted, n.actionKey? = none := by
    decide +kernel
  refine plan_rewindAll_iff_needs (Rehearsal.steady_world rfl) rfl Rehearsal.circle.keyed_queries _ _
    (fun _ ha => Queries.discover_of_closes hc ha) (fun _ hk => Queries.lookup_of_closes hc hk)
    (fun _ action _ _ k hk => ?_) rfl
  have := hn action.1 action.2 _ hk
  cases this

end Rewinding
