import Rewinding.Proofs.Cancellation
import Rewinding.Proofs.Planning

/-!
# Which failure planning ends with

Several things may be wrong with a loss at once: it repeats another one, it shows a defect, sources account
for some of its inputs, and a walk from the others would fail, or was cancelled. `Judged` says which of them
planning ends with, and `verdict_spec` says it by what is wrong with the loss.

The graph is any `Accessor` that fails for ordinary reasons only (`Accessor.Faithful`), and the build may be
cancelled before or during any query. Reports are collected, so that they can be counted.
-/

namespace Rewinding

open Procedure Planning

variable {known : List Action} {γ : Type}

theorem Build.reports_take_collect (b : Build) (message : String) :
    (b.take .collect message).reports = b.reports ++ [message] := rfl

/-! ### What is wrong with a loss -/

namespace Loss

variable (loss : Loss)

/-- The action lost some of these inputs before. -/
def Repeats (key : ActionKey) (history : History) : Prop :=
  ∃ digest ∈ loss.digests, ⟨key, digest⟩ ∈ history

/-- Some lost input is a direct dependency and yet no artifact. -/
def Misplaces (directDeps : Std.ExtTreeSet Node) : Prop :=
  ∃ path, .virtual path ∈ loss.inputs ∧ .artifact path ∈ directDeps

/-- Some lost input is attributed to a source. -/
def TakesSource (directDeps : Std.ExtTreeSet Node) (runfiles : OwnerLookup) : Prop :=
  ∃ input ∈ loss.inputs, ∃ a : Artifact,
    Ownership.attribution? ⟨loss.owners, runfiles, directDeps⟩ input = some a ∧ a.isSource

variable {loss} {directDeps : Std.ExtTreeSet Node} {runfiles : OwnerLookup} {failed : ActionKey}

theorem any_isSource_owners {r : Responsible}
    (hr : Ownership.resolve ⟨loss.owners, runfiles, directDeps⟩ failed loss.inputs = .ok r) :
    (Planning.owners r).any Artifact.isSource = true ↔ loss.TakesSource directDeps runfiles := by
  rw [List.any_eq_true]
  simp only [mem_owners, Ownership.mem_resolve hr]
  constructor
  · rintro ⟨a, ⟨input, hinput, ha⟩, hsource⟩
    exact ⟨input, hinput, a, ha, hsource⟩
  · rintro ⟨input, hinput, a, ha, hsource⟩
    exact ⟨a, ⟨input, hinput, ha⟩, hsource⟩

end Loss

namespace Accessor

/-! ### Graphs that fail for ordinary reasons -/

/-- Queries fail for reasons only for which those of a graph may fail. -/
structure Faithful (x : Accessor known γ) : Prop where
  discover {artifact : Artifact} {graph : γ} {failure : Failure} :
    (x.discover artifact graph).1 = .error failure → Build.QueryFault failure
  lookup {key : ActionKey} {graph : γ} {failure : Failure} :
    (x.lookup key graph).1 = .error failure → Build.QueryFault failure

theorem State.cancelAt_of_not_asked {s : State known γ} (h : s.asked = false) (moment : Option Nat) :
    s.cancelAt moment = s := by
  unfold cancelAt
  simp [h]

theorem State.reports_cancelAt (moment : Option Nat) (s : State known γ) :
    (s.cancelAt moment).build.reports = s.build.reports := by
  unfold cancelAt
  split <;> rfl

theorem world_answer_of_not_asksGraph (x : Accessor known γ) (reporter : Reporter)
    (moment : Option Nat) {step : Step known} (h : step.asksGraph = false) (s : State known γ) :
    (x.world reporter moment).answer step s = x.answer reporter step s := by
  rw [world_answer, State.cancelAt_of_not_asked ((x.asked_answer ..).trans h)]

/-- What is remembered and reported is no query. -/
theorem files_world (x : Accessor known γ) (reporter : Reporter) (moment : Option Nat) :
    (x.world reporter moment).Files reporter State.build State.queries where
  record key digest s := by
    rw [x.world_answer_of_not_asksGraph reporter moment rfl]
    exact ⟨rfl, rfl, x.queries_answer reporter (.record key digest) s⟩
  report message s := by
    rw [x.world_answer_of_not_asksGraph reporter moment rfl]
    exact ⟨rfl, rfl, x.queries_answer reporter (.report message) s⟩

/-- Queries send no report. -/
theorem Faithful.world_answer_of_isQuery {x : Accessor known γ} (hx : x.Faithful)
    (reporter : Reporter) (moment : Option Nat) (step : Step known) (s : State known γ)
    (h : step.IsQuery) :
    step.Usual Build.QueryFault ((x.world reporter moment).answer step s).1 ∧
      ((x.world reporter moment).answer step s).2.build.reports = s.build.reports := by
  rw [world_answer, State.reports_cancelAt]
  cases step with
  | interrupted => exact ⟨trivial, rfl⟩
  | discover artifact =>
    refine ⟨?_, rfl⟩
    show Step.Usual Build.QueryFault (.discover artifact) (x.discover artifact s.graph).1
    cases hanswer : (x.discover artifact s.graph).1 with
    | ok found => trivial
    | error failure => exact hx.discover hanswer
  | lookup key =>
    refine ⟨?_, rfl⟩
    show Step.Usual Build.QueryFault (.lookup key) (x.lookup key s.graph).1
    cases hanswer : (x.lookup key s.graph).1 with
    | ok action => trivial
    | error failure => exact hx.lookup hanswer
  | record _ _ | report _ | attempt _ | invalidate _ | evict _ => exact h.elim

/-- A walk sends no report, and ends early only where a query fails or the build is cancelled. -/
theorem Faithful.exec_walkFrom {x : Accessor known γ} (hx : x.Faithful) (reporter : Reporter)
    (moment : Option Nat) (key : ActionKey) (artifacts : List Artifact) (s : State known γ) :
    (exec (x.world reporter moment) (walkFrom key artifacts) s).2.build.reports = s.build.reports ∧
      ∀ stop, (exec (x.world reporter moment) (walkFrom key artifacts) s).1 = .error stop →
        stop.Usual Build.QueryFault := by
  obtain ⟨hreports, hstop⟩ := (Walk.inquires_rewindAll trivial (Builder.start key)
    artifacts).exec_keeping (f := fun s => s.build.reports)
    (hx.world_answer_of_isQuery reporter moment) s
  simp only [walkFrom, exec_bind, exec_adapt]
  generalize exec (x.world reporter moment) (Walk.rewindAll (Builder.start key) artifacts) s =
    result at hreports hstop
  rcases result with ⟨⟨stop, builder⟩ | builder, t⟩
  · refine ⟨hreports, ?_⟩
    rintro _ ⟨⟩
    exact hstop _ rfl
  · refine ⟨hreports, ?_⟩
    intro stop h
    cases h

/-! ### The verdict -/

/-- Compute a plan and collect the reports, while the build is cancelled during query number `moment`. -/
def verdict (x : Accessor known γ) (moment : Option Nat) (failed : Action) (key : ActionKey)
    (directDeps : Std.ExtTreeSet Node) (loss : Loss) (runfiles : OwnerLookup) (b : Build) (graph : γ) :
    Except Stop Plan × State known γ :=
  exec (x.world .collect moment) (planFor failed key directDeps loss runfiles) { build := b, graph }

section Verdict

variable (failed : Action) (key : ActionKey) (directDeps : Std.ExtTreeSet Node) (loss : Loss)
  (runfiles : OwnerLookup) (b : Build)

/-- What planning ends with: a repetition comes before a defect, a defect before a source, and all of them
before a walk. -/
inductive Judged : Except Stop Plan → State known γ → Prop where
  | repeated {s : State known γ} : loss.Repeats key b.history → s.queries = 0 →
      (∃ message, s.build.reports = b.reports ++ [message]) →
      Judged (.error (.failure (failureOf failed key .repeatedLoss loss))) s
  | misplaced {path : String} {s : State known γ} : ¬loss.Repeats key b.history →
      loss.Misplaces directDeps → s.queries = 0 →
      (∃ message, s.build.reports = b.reports ++ [message]) →
      Judged (.error (.failure (.virtualDependency path failed.key))) s
  | sourceLost {s : State known γ} : ¬loss.Repeats key b.history → ¬loss.Misplaces directDeps →
      loss.TakesSource directDeps runfiles → s.queries = 0 → s.build.reports = b.reports →
      Judged (.error (.failure (failureOf failed key .sourceLost loss))) s
  | walked {result : Except Stop Plan} {s : State known γ} : ¬loss.Repeats key b.history →
      ¬loss.Misplaces directDeps → ¬loss.TakesSource directDeps runfiles →
      s.build.reports = b.reports → (∀ stop, result = .error stop → stop.Usual Build.QueryFault) →
      Judged result s

theorem judged_verdict {x : Accessor known γ} (hx : x.Faithful) (moment : Option Nat) (graph : γ) :
    Judged failed key directDeps loss runfiles b
      (x.verdict moment failed key directDeps loss runfiles b graph).1
      (x.verdict moment failed key directDeps loss runfiles b graph).2 := by
  obtain ⟨checked, t, hchecked, hqueries, hexec⟩ := exec_planFor (x.files_world .collect moment)
    failed key directDeps loss runfiles { build := b, graph }
  unfold verdict
  rw [hexec]
  have hqueries : t.queries = 0 := hqueries
  have hnew : (∀ digest ∈ loss.digests, (⟨key, digest⟩ : LossRecord) ∉ b.history) →
      ¬loss.Repeats key b.history := by
    rintro h ⟨digest, hdigest, hold⟩
    exact h digest hdigest hold
  generalize ht : t.build = after at hchecked
  cases hchecked with
  | repeated he _ hold =>
    have hreports := congrArg Build.reports ht
    rw [Build.reports_take_collect, Build.reports_recordEach] at hreports
    exact .repeated ⟨_, Loss.mem_digests_of_toList_eq he, hold⟩ hqueries ⟨_, hreports⟩
  | defect hfresh hr =>
    obtain ⟨path, hpath, hdirect, rfl⟩ := Ownership.exists_virtual_of_resolve hr
    have hreports := congrArg Build.reports ht
    rw [Build.reports_take_collect, Build.reports_recordEach] at hreports
    exact .misplaced (hnew hfresh) ⟨path, hpath, hdirect⟩ hqueries ⟨_, hreports⟩
  | sourceLost hfresh hr hs =>
    refine .sourceLost (hnew hfresh) (Ownership.not_misplaced_of_resolve hr)
      ((Loss.any_isSource_owners hr).1 hs) hqueries ?_
    rw [ht, Build.reports_recordEach]
  | @passed r hfresh hr hs =>
    have hsource : ¬loss.TakesSource directDeps runfiles := by
      rw [← Loss.any_isSource_owners hr, hs]
      exact Bool.false_ne_true
    obtain ⟨hreports, hstop⟩ := hx.exec_walkFrom .collect moment key (owners r) t
    refine .walked (hnew hfresh) (Ownership.not_misplaced_of_resolve hr) hsource ?_ hstop
    rw [hreports, ht, Build.reports_recordEach]

/-- **Which failure planning ends with.** It ends with a repetition exactly if some input was lost before;
otherwise with a defect exactly if some lost input is a direct dependency and no artifact; otherwise with a
lost source exactly if one accounts for some input. Only otherwise there is a plan, or a query fails, or
the build turns out to be cancelled. In the first three cases the graph is asked nothing. A repetition and
a defect are reported once, and nothing else is; an action that fails for good does so under the key
that was given and with the loss as it was, and does not end the whole build. -/
theorem verdict_spec {x : Accessor known γ} (hx : x.Faithful) (moment : Option Nat) (graph : γ) :
    let run := x.verdict moment failed key directDeps loss runfiles b graph
    ((∃ e, run.1 = .error (.failure (.execution e)) ∧ e.fault = .repeatedLoss) ↔
      loss.Repeats key b.history) ∧
    ((∃ path k, run.1 = .error (.failure (.virtualDependency path k))) ↔
      ¬loss.Repeats key b.history ∧ loss.Misplaces directDeps) ∧
    ((∃ e, run.1 = .error (.failure (.execution e)) ∧ e.fault = .sourceLost) ↔
      ¬loss.Repeats key b.history ∧ ¬loss.Misplaces directDeps ∧
        loss.TakesSource directDeps runfiles) ∧
    (((∃ plan, run.1 = .ok plan) ∨
        ∃ failure, run.1 = .error (.failure failure) ∧ Build.QueryFault failure) ↔
      ¬loss.Repeats key b.history ∧ ¬loss.Misplaces directDeps ∧
        ¬loss.TakesSource directDeps runfiles) ∧
    (loss.Repeats key b.history ∨ loss.Misplaces directDeps ∨ loss.TakesSource directDeps runfiles →
      run.2.queries = 0) ∧
    (loss.Repeats key b.history ∨ loss.Misplaces directDeps →
      ∃ message, run.2.build.reports = b.reports ++ [message]) ∧
    (¬loss.Repeats key b.history → ¬loss.Misplaces directDeps →
      run.2.build.reports = b.reports) ∧
    ∀ e, run.1 = .error (.failure (.execution e)) →
      e.action = key ∧ e.mnemonic = failed.mnemonic ∧ e.cause = loss ∧ e.catastrophe = false := by
  intro run
  have hjudged : Judged failed key directDeps loss runfiles b run.1 run.2 :=
    judged_verdict failed key directDeps loss runfiles b hx moment graph
  generalize run.1 = result, run.2 = s at hjudged
  cases hjudged with
  | repeated hrepeats hqueries hreports =>
    simp [hrepeats, hqueries, hreports, failureOf, Build.QueryFault]
  | misplaced hrepeats hmisplaces hqueries hreports =>
    simp [hrepeats, hmisplaces, hqueries, hreports, Build.QueryFault]
  | sourceLost hrepeats hmisplaces hsource hqueries hreports =>
    simp [hrepeats, hmisplaces, hsource, hqueries, hreports, failureOf, Build.QueryFault]
  | walked hrepeats hmisplaces hsource hreports hstop =>
    cases result with
    | ok plan => simp [hrepeats, hmisplaces, hsource, hreports]
    | error stop =>
      have hfault := hstop stop rfl
      cases stop with
      | crash text => exact hfault.elim
      | failure failure =>
        have hfault : Build.QueryFault failure := hfault
        cases failure <;> simp [hrepeats, hmisplaces, hsource, hreports, Build.QueryFault] at hfault ⊢

end Verdict

/-! ### A loss with several things wrong -/

theorem faithful_halfDone : halfDone.Faithful where
  discover h := by cases h
  lookup {key graph failure} h := by
    unfold halfDone at h
    simp only at h
    split at h
    · cases h
    · cases h
      trivial

/-- What `//f#0` depends on here. -/
def mixedDeps : Std.ExtTreeSet Node := .ofList [Node.artifact "out/a", .artifact "out/m", .artifact "src/s"]

/-- The loss of something that is made, of a source, and of a direct dependency that is no artifact. -/
def mixedLoss : Loss := .ofEntries "lost"
  [("1", .artifact ⟨"out/a", .derived⟩), ("2", .artifact ⟨"src/s", .source⟩), ("3", .virtual "out/m")] ∅

/-- The defect is what counts, although a source was lost too and the build is cancelled already. -/
theorem verdict_spec_mixed : halfDone.Faithful ∧
    let run := halfDone.verdict none { key := ⟨"//f", 0⟩ } ⟨"//f", 0⟩ mixedDeps mixedLoss ⟨fun _ => none⟩
      { interrupted := true } ()
    (∃ path k, run.1 = .error (.failure (.virtualDependency path k))) ∧ run.2.queries = 0 ∧
      ∃ message, run.2.build.reports = [message] := by
  have hnew : ¬mixedLoss.Repeats ⟨"//f", 0⟩ ∅ := by
    rintro ⟨digest, -, hold⟩
    exact Std.ExtTreeSet.not_mem_empty hold
  have hmisplaces : mixedLoss.Misplaces mixedDeps :=
    ⟨"out/m", by decide +kernel, by decide +kernel⟩
  obtain ⟨-, hdefect, -, -, hqueries, hreports, -⟩ := verdict_spec { key := ⟨"//f", 0⟩ } ⟨"//f", 0⟩
    mixedDeps mixedLoss ⟨fun _ => none⟩ { interrupted := true } faithful_halfDone none ()
  exact ⟨faithful_halfDone, hdefect.2 ⟨hnew, hmisplaces⟩, hqueries (Or.inr (Or.inl hmisplaces)),
    hreports (Or.inr hmisplaces)⟩

end Accessor

end Rewinding
