import Rewinding.Proofs.Guards
import Rewinding.Proofs.Walk

/-!
# How planning ends

`Planned` lists every way in which the plan for a failed action can end on a build, each with the
build that it leaves. All that planning changes is what it remembers: the losses recorded until it
ended, and a report where it found a defect. Whatever is to be known of a plan's computation is read
off this list (`planned_planFor`), and not off the computation.
-/

namespace Rewinding

open Procedure

namespace Build

/-- The answers that the queries of a walk get from a build of `g`. -/
def queries (b : Build) (g : Graph) : Queries g.roster where
  cancelled := b.interrupted
  discover := b.evaluation.discover g
  lookup := g.lookup

theorem steady_world (g : Graph) (reporter : Reporter) (b : Build) :
    (world g reporter).Steady (· = b) (b.queries g) where
  interrupted hs := by
    subst hs
    exact ⟨rfl, rfl⟩
  discover artifact hs := by
    subst hs
    exact ⟨rfl, rfl⟩
  lookup key hs := by
    subst hs
    exact ⟨rfl, rfl⟩

/-- Why a query of a build fails. -/
def QueryFault : Failure → Prop
  | .unknownArtifact _ | .actionNotFound _ | .interrupted => True
  | _ => False

/-- Queries of a build change nothing. -/
theorem world_answer_of_isQuery (g : Graph) (reporter : Reporter) (step : Step g.roster) (b : Build)
    (h : step.IsQuery) : step.Usual QueryFault ((world g reporter).answer step b).1 ∧
      ((world g reporter).answer step b).2 = b := by
  cases step with
  | interrupted => exact ⟨trivial, rfl⟩
  | discover artifact =>
    refine ⟨?_, rfl⟩
    show Step.Usual QueryFault (.discover artifact) (b.evaluation.discover g artifact)
    unfold Evaluation.discover
    split <;> trivial
  | lookup key =>
    refine ⟨?_, rfl⟩
    show Step.Usual QueryFault (.lookup key) (g.lookup key)
    unfold Graph.lookup
    split <;> trivial
  | record _ _ | report _ | attempt _ | invalidate _ | evict _ => exact h.elim

/-- A build keeps what is remembered and reported itself. -/
theorem files_world (g : Graph) (reporter : Reporter) :
    (world g reporter).Files reporter id fun _ => () where
  record _ _ _ := ⟨rfl, rfl, rfl⟩
  report _ _ := ⟨rfl, rfl, rfl⟩

/-! ### What planning changes -/

/-- `b'` differs from `b` in the reports and in losses of `key` that it remembers besides. -/
structure SameButMemory (key : ActionKey) (b b' : Build) : Prop where
  evaluation : b'.evaluation = b.evaluation
  cache : b'.cache = b.cache
  attempts : b'.attempts = b.attempts
  interrupted : b'.interrupted = b.interrupted
  remembered {loss : LossRecord} : loss ∈ b.history → loss ∈ b'.history
  own {loss : LossRecord} : loss ∈ b'.history → loss ∈ b.history ∨ loss.key = key

theorem SameButMemory.trans {key : ActionKey} {b b' b'' : Build} (h : b.SameButMemory key b')
    (h' : b'.SameButMemory key b'') : b.SameButMemory key b'' where
  evaluation := h'.evaluation.trans h.evaluation
  cache := h'.cache.trans h.cache
  attempts := h'.attempts.trans h.attempts
  interrupted := h'.interrupted.trans h.interrupted
  remembered hl := h'.remembered (h.remembered hl)
  own hl := (h'.own hl).elim h.own Or.inr

theorem sameButMemory_record (b : Build) (key : ActionKey) (digest : String) :
    b.SameButMemory key (b.record ⟨key, digest⟩) := by
  refine ⟨rfl, rfl, rfl, rfl, fun hl => mem_history_record.2 (Or.inr hl), fun hl => ?_⟩
  obtain rfl | hl := mem_history_record.1 hl
  · exact Or.inr rfl
  · exact Or.inl hl

theorem sameButMemory_recordEach (b : Build) (key : ActionKey) (digests : List String) :
    b.SameButMemory key (b.recordEach key digests) := by
  unfold recordEach
  induction digests generalizing b with
  | nil => exact ⟨rfl, rfl, rfl, rfl, id, Or.inl⟩
  | cons d ds ih => exact (b.sameButMemory_record key d).trans (ih _)

theorem sameButMemory_take (b : Build) (key : ActionKey) (reporter : Reporter) (message : String) :
    b.SameButMemory key (b.take reporter message) := by
  unfold take
  split <;> exact ⟨rfl, rfl, rfl, rfl, id, Or.inl⟩

end Build

theorem Restart.nodup_nodes_of (self : Node) (nodes : Std.ExtTreeSet Node) :
    (Restart.of self nodes).nodes.Nodup := by
  unfold Restart.nodes Restart.of
  rw [List.nodup_cons]
  constructor
  · rw [Std.ExtTreeSet.mem_toList, Std.ExtTreeSet.mem_erase]
    rintro ⟨h, -⟩
    exact h Std.ReflCmp.compare_self
  · refine Std.ExtTreeSet.distinct_toList.imp fun h he => h ?_
    rw [he]
    exact Std.ReflCmp.compare_self

/-- The fault for which an action failed for good, if that ended the computation. -/
def Stop.fault? : Stop → Option ExecutionFault
  | .failure (.execution e) => some e.fault
  | _ => none

/-- No query finds that an action fails for good. -/
theorem Stop.Usual.fault?_eq_none {stop : Stop} (h : stop.Usual Build.QueryFault) :
    stop.fault? = none := by
  cases stop with
  | crash _ => rfl
  | failure reason => cases reason <;> first | rfl | exact h.elim

namespace Planning

variable {g : Graph} {reporter : Reporter}

/-! ### What the checks change -/

theorem fault?_stop {message : String} {failure : Failure} {fault : ExecutionFault}
    (h : (reporter.stop message failure).fault? = some fault) :
    (Stop.failure failure).fault? = some fault := by
  unfold Reporter.stop at h
  cases hc : reporter.crash? message with
  | none =>
    rw [hc] at h
    exact h
  | some text =>
    rw [hc] at h
    cases h

section Checked

variable {failed : Action} {key : ActionKey} {directDeps : Std.ExtTreeSet Node} {loss : Loss}
  {runfiles : OwnerLookup} {b b' : Build}

/-- The checks only remember losses of their own action. -/
theorem Checked.sameButMemory {checked : Except Stop (List Artifact)}
    (h : Checked reporter failed key directDeps loss runfiles b checked b') :
    b.SameButMemory key b' := by
  cases h with
  | repeated _ _ _ =>
    exact (b.sameButMemory_recordEach key _).trans (Build.sameButMemory_take _ key reporter _)
  | defect _ _ =>
    exact (b.sameButMemory_recordEach key _).trans (Build.sameButMemory_take _ key reporter _)
  | sourceLost _ _ _ => exact b.sameButMemory_recordEach key _
  | passed _ _ _ => exact b.sameButMemory_recordEach key _

/-- Neither the checks nor the queries after them find an action rewound too often. -/
theorem Checked.fault?_ne_limitExceeded {checked : Except Stop (List Artifact)} {stop : Stop}
    (h : Checked reporter failed key directDeps loss runfiles b checked b')
    (hstop : checked = .error stop ∨ stop.Usual Build.QueryFault) :
    stop.fault? ≠ some .limitExceeded := by
  intro hf
  obtain rfl | hq := hstop
  · cases h with
    | repeated _ _ _ => cases fault?_stop hf
    | defect _ hr =>
      obtain ⟨input, -, rfl⟩ := Ownership.resolve_eq_error.1 hr
      cases fault?_stop hf
    | sourceLost _ _ _ => cases hf
  · rw [hq.fault?_eq_none] at hf
    cases hf

end Checked

/-! ### The ways in which planning ends -/

/-- The ways in which planning for `key` ends on the build `b`: with a result, and on a build that
differs from `b` in its memory at most. -/
inductive Planned (g : Graph) (reporter : Reporter) (failed : Action) (key : ActionKey)
    (directDeps : Std.ExtTreeSet Node) (loss : Loss) (runfiles : Owners) (b : Build) :
    Except Stop Plan → Build → Prop where
  /-- An input was lost before. The ones in front of it have been recorded. -/
  | repeated {before : List (String × Input)} {digest : String} {input : Input}
      {after : List (String × Input)} : loss.lost.toList = before ++ (digest, input) :: after →
      (∀ e ∈ before, ⟨key, e.1⟩ ∉ b.history) → ⟨key, digest⟩ ∈ b.history →
      Planned g reporter failed key directDeps loss runfiles b
        (.error (reporter.stop (repeatReport key digest input)
          (failureOf failed key .repeatedLoss loss)))
        ((b.recordEach key (before.map Prod.fst)).take reporter (repeatReport key digest input))
  /-- A lost input shows a defect of the graph engine. -/
  | defect {failure : Failure} : (∀ digest ∈ loss.digests, ⟨key, digest⟩ ∉ b.history) →
      Ownership.resolve ⟨loss.owners, runfiles, directDeps⟩ failed.key loss.inputs =
        .error failure → failure.isDefect →
      Planned g reporter failed key directDeps loss runfiles b
        (.error (reporter.stop failure.message failure))
        ((b.recordEach key loss.digests).take reporter failure.message)
  /-- A source accounts for a lost input. -/
  | sourceLost {r : Responsible} : (∀ digest ∈ loss.digests, ⟨key, digest⟩ ∉ b.history) →
      Ownership.resolve ⟨loss.owners, runfiles, directDeps⟩ failed.key loss.inputs = .ok r →
      (owners r).any Artifact.isSource →
      Planned g reporter failed key directDeps loss runfiles b
        (.error (.failure (failureOf failed key .sourceLost loss))) (b.recordEach key loss.digests)
  /-- The walk ends early. -/
  | stopped {r : Responsible} {stop : Stop} {builder : Builder} : stop.Usual Build.QueryFault →
      (∀ digest ∈ loss.digests, ⟨key, digest⟩ ∉ b.history) →
      Ownership.resolve ⟨loss.owners, runfiles, directDeps⟩ failed.key loss.inputs = .ok r →
      (owners r).any Artifact.isSource = false →
      exec (Build.world g reporter) (Walk.rewindAll (Builder.start key) (owners r))
        (b.recordEach key loss.digests) = (.error (stop, builder), b.recordEach key loss.digests) →
      Planned g reporter failed key directDeps loss runfiles b (.error stop)
        (b.recordEach key loss.digests)
  | planned {r : Responsible} {builder : Builder} :
      (∀ digest ∈ loss.digests, ⟨key, digest⟩ ∉ b.history) →
      Ownership.resolve ⟨loss.owners, runfiles, directDeps⟩ failed.key loss.inputs = .ok r →
      (owners r).any Artifact.isSource = false →
      exec (Build.world g reporter) (Walk.rewindAll (Builder.start key) (owners r))
        (b.recordEach key loss.digests) = (.ok builder, b.recordEach key loss.digests) →
      Planned g reporter failed key directDeps loss runfiles b (.ok builder.plan)
        (b.recordEach key loss.digests)

section Planned

variable {failed : Action} {key : ActionKey} {directDeps : Std.ExtTreeSet Node} {loss : Loss}
  {runfiles : Owners} {b b' : Build}

/-- Planning leaves the build that its checks leave. A failure is one of theirs, or that of a query. -/
theorem Planned.exists_checked {result : Except Stop Plan}
    (h : Planned g reporter failed key directDeps loss runfiles b result b') :
    ∃ checked, Checked reporter failed key directDeps loss runfiles b checked b' ∧
      ∀ stop, result = .error stop → checked = .error stop ∨ stop.Usual Build.QueryFault := by
  cases h with
  | repeated he hnew hd => exact ⟨_, .repeated he hnew hd, fun | _, rfl => Or.inl rfl⟩
  | defect hfresh hr _ => exact ⟨_, .defect hfresh hr, fun | _, rfl => Or.inl rfl⟩
  | sourceLost hfresh hr hs => exact ⟨_, .sourceLost hfresh hr hs, fun | _, rfl => Or.inl rfl⟩
  | stopped hq hfresh hr hs _ => exact ⟨_, .passed hfresh hr hs, fun | _, rfl => Or.inr hq⟩
  | planned hfresh hr hs _ => exact ⟨_, .passed hfresh hr hs, nofun⟩

/-- Planning only remembers losses of its own action. -/
theorem Planned.sameButMemory {result : Except Stop Plan}
    (h : Planned g reporter failed key directDeps loss runfiles b result b') :
    b.SameButMemory key b' := by
  obtain ⟨checked, hchecked, -⟩ := h.exists_checked
  exact hchecked.sameButMemory

/-- A plan restarts no node twice. -/
theorem Planned.nodup_nodes {plan : Plan}
    (h : Planned g reporter failed key directDeps loss runfiles b (.ok plan) b') :
    plan.restart.nodes.Nodup := by
  cases h with
  | planned _ _ _ _ => exact Restart.nodup_nodes_of ..

/-- It is not planning that finds an action rewound too often. -/
theorem Planned.fault?_ne_limitExceeded {stop : Stop}
    (h : Planned g reporter failed key directDeps loss runfiles b (.error stop) b') :
    stop.fault? ≠ some .limitExceeded := by
  obtain ⟨checked, hchecked, hstop⟩ := h.exists_checked
  exact hchecked.fault?_ne_limitExceeded (hstop stop rfl)

end Planned

/-- **Planning ends in one of these ways.** -/
theorem planned_planFor (failed : Action) (key : ActionKey) (directDeps : Std.ExtTreeSet Node)
    (loss : Loss) (runfiles : Owners) (b : Build) :
    Planned g reporter failed key directDeps loss runfiles b
      (exec (Build.world g reporter) (planFor failed key directDeps loss runfiles) b).1
      (exec (Build.world g reporter) (planFor failed key directDeps loss runfiles) b).2 := by
  obtain ⟨checked, t, hchecked, -, hexec⟩ :=
    exec_planFor (Build.files_world g reporter) failed key directDeps loss runfiles b
  have hchecked : Checked reporter failed key directDeps loss runfiles b checked t := hchecked
  rw [hexec]
  cases hchecked with
  | repeated he hnew hd => exact .repeated he hnew hd
  | defect hfresh hr => exact .defect hfresh hr (Ownership.isDefect_of_resolve hr)
  | sourceLost hfresh hr hs => exact .sourceLost hfresh hr hs
  -- what is left is the walk, which asks and changes nothing
  | @passed r hfresh hr hs =>
    simp only [walkFrom, exec_bind, exec_adapt]
    obtain ⟨hquiet, hstop⟩ := (Walk.inquires_rewindAll trivial (Builder.start key) (owners r)).exec
      (Build.world_answer_of_isQuery g reporter) (b.recordEach key loss.digests)
    generalize hx : exec (Build.world g reporter) (Walk.rewindAll (Builder.start key) (owners r))
      (b.recordEach key loss.digests) = result at hquiet hstop
    obtain ⟨⟨stop, builder⟩ | builder, b'⟩ := result
    · obtain rfl := hquiet
      exact .stopped (hstop _ rfl) hfresh hr hs hx
    · obtain rfl := hquiet
      exact .planned hfresh hr hs hx

end Planning

end Rewinding
