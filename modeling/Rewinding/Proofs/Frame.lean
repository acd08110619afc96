import Rewinding.Proofs.Effect
import Rewinding.Proofs.Trace

/-!
# What a failed handling leaves alone

A plan is applied in one way only, at the very end, and nothing can fail from there on. So a handling that
fails leaves the nodes of the graph and the cache alone, whatever makes it fail. This holds also if others
cancel the build meanwhile, or take that back: `Session.handleUnder` handles a loss on a build whose flag may
change right before each step, and `Session.frame_handleUnder` says what such a handling leaves alone. If the
flag never changes, that is how a loss is handled alone (`Session.handleUnder_id`).

* `World.Keeps` says that a build stands in the states of a world, while other parts of them may change in
  any way. For a build whose flag changes, that is the build without its flag.
* `Planning.Fails` lists the ways in which a handling fails in such a world, each with the build that it leaves.
-/

namespace Rewinding

open Procedure

variable {known : List Action} {σ : Type}

/-! ### Worlds that keep a build -/

/-- What is counted, remembered and reported goes into the build of a state, and queries leave that build as
it is. They fail for the reasons of builds. -/
structure World.Keeps (world : World known σ) (reporter : Reporter) (build : σ → Build) : Prop where
  files : world.Files reporter build fun _ => ()
  attempt (key : ActionKey) (s : σ) : build (world.answer (.attempt key) s).2 = (build s).countAttempt key
  query (step : Step known) (s : σ) : step.IsQuery →
    step.Usual Build.QueryFault (world.answer step s).1 ∧ build (world.answer step s).2 = build s

namespace Planning

/-! ### A plan that is found is applied -/

section Applying

variable {allowed : Answered known → Prop} {past : List (Answered known)}
  {stop : List (Answered known) → Stop → Prop}

/-- To restart nodes cannot fail, whatever that is answered. -/
theorem recounts_invalidateAll (nodes : List Node) :
    Recounts allowed past (invalidateAll nodes : Attempt known Nat) (fun _ _ => True) stop := by
  induction nodes generalizing past with
  | nil => exact .pure trivial
  | cons node nodes ih =>
    unfold invalidateAll
    exact .bind_any (.step _ fun _ _ => trivial) fun _ _ => .bind_any ih fun _ _ => .pure trivial

/-- To forget executions cannot fail, whatever that is answered. -/
theorem recounts_evictAll (keys : List ActionKey) :
    Recounts allowed past (evictAll keys : Attempt known Nat) (fun _ _ => True) stop := by
  induction keys generalizing past with
  | nil => exact .pure trivial
  | cons key keys ih =>
    unfold evictAll
    exact .bind_any (.step _ fun _ _ => trivial) fun _ _ => .bind_any ih fun _ _ => .pure trivial

end Applying

/-! ### How a handling fails -/

/-- A handling for `key` that starts in the state `s` is refused: the build is cancelled, or the action is
not known. -/
def Refused (world : World known σ) (key : ActionKey) (s : σ) : Prop :=
  (world.answer .interrupted s).1 = true ∨
    (world.answer (.lookup key) (world.answer .interrupted s).2).1.isOk = false

/-- The ways in which the handling of a loss of inputs of `key` fails on the build `b`, each with the build
that it leaves. -/
inductive Fails (refused : Prop) (key : ActionKey) (b : Build) : Stop → Build → Prop where
  | refused {stop : Stop} : refused → stop.fault? = none → Fails refused key b stop b
  | exceeded {stop : Stop} : ¬refused → stop.fault? = some .limitExceeded →
      Fails refused key b stop (b.countAttempt key)
  | unplanned {stop : Stop} {b' : Build} : ¬refused → stop.fault? ≠ some .limitExceeded →
      (b.countAttempt key).SameButMemory key b' → Fails refused key b stop b'

section Keeps

variable {world : World known σ} {reporter : Reporter} {build : σ → Build} (hw : world.Keeps reporter build)

include hw

/-- Planning leaves the build that its checks leave. A failure is one of theirs, or that of a query. -/
theorem exists_checked_planFor (failed : Action) (key : ActionKey) (directDeps : Std.ExtTreeSet Node)
    (loss : Loss) (runfiles : OwnerLookup) (s : σ) :
    ∃ checked, Checked reporter failed key directDeps loss runfiles (build s) checked
        (build (exec world (planFor failed key directDeps loss runfiles) s).2) ∧
      ∀ stop, (exec world (planFor failed key directDeps loss runfiles) s).1 = .error stop →
        checked = .error stop ∨ stop.Usual Build.QueryFault := by
  obtain ⟨checked, t, hchecked, -, hexec⟩ := exec_planFor hw.files failed key directDeps loss runfiles s
  rw [hexec]
  cases checked with
  | error stop => exact ⟨_, hchecked, fun stop' h => Or.inl (congrArg _ (Except.error.inj h))⟩
  | ok artifacts =>
    -- the walk only asks, so it keeps the build, whatever else changes
    obtain ⟨hkept, hstop⟩ := (Walk.inquires_rewindAll trivial (Builder.start key) artifacts).exec_keeping
      hw.query t
    simp only [walkFrom, exec_bind, exec_adapt]
    generalize exec world (Walk.rewindAll (Builder.start key) artifacts) t = result at hkept hstop
    obtain ⟨e | b, u⟩ := result
    · refine ⟨.ok artifacts, hkept ▸ hchecked, fun stop h => Or.inr ?_⟩
      rw [← Except.error.inj h]
      exact hstop e rfl
    · refine ⟨.ok artifacts, hkept ▸ hchecked, fun stop h => ?_⟩
      cases h

/-- **A handling fails in one of these ways**, also if the state changes in other parts meanwhile. -/
theorem fails_handle (maxRewinds : UInt32) (runfiles : Owners) (key : ActionKey) (loss : Loss) (s : σ)
    {stop : Stop} (h : (exec world (handle maxRewinds runfiles key loss) s).1 = .error stop) :
    Fails (Refused world key s) key (build s) stop
      (build (exec world (handle maxRewinds runfiles key loss) s).2) := by
  unfold handle at h ⊢
  obtain ⟨-, hasked⟩ := hw.query .interrupted s trivial
  have hcheck := exec_checkInterrupt world s
  cases hcancelled : (world.answer .interrupted s).1 with
  | true =>
    rw [hcancelled, if_pos rfl] at hcheck
    rw [exec_bind_error _ _ hcheck] at h ⊢
    rw [hasked, ← Except.error.inj h]
    exact .refused (Or.inl hcancelled) rfl
  | false =>
  rw [hcancelled, if_neg Bool.false_ne_true] at hcheck
  rw [exec_bind_ok _ _ hcheck] at h ⊢
  obtain ⟨husual, hfound⟩ := hw.query (.lookup key) (world.answer .interrupted s).2 trivial
  have hlookup := exec_lookup world (world.answer .interrupted s).2 key
  cases hanswer : (world.answer (.lookup key) (world.answer .interrupted s).2).1 with
  | error failure =>
    rw [hanswer] at hlookup husual
    rw [exec_bind_error _ _ hlookup] at h ⊢
    rw [hfound, hasked, ← Except.error.inj h]
    refine .refused (Or.inr ?_) (Stop.Usual.fault?_eq_none husual)
    rw [hanswer]
    rfl
  | ok failed =>
  have hadmitted : ¬Refused world key s := by
    rintro (hr | hr)
    · rw [hcancelled] at hr
      cases hr
    · rw [hanswer] at hr
      cases hr
  rw [hanswer] at hlookup
  rw [exec_bind_ok _ _ hlookup, exec_bind_ok _ _ (exec_step ..)] at h ⊢
  -- from here on the attempt counts, however the handling ends
  have hcounted := hw.attempt key (world.answer (.lookup key) (world.answer .interrupted s).2).2
  rw [hfound, hasked] at hcounted
  generalize (world.answer (.attempt key) _).1 = attempt at h ⊢
  generalize (world.answer (.attempt key) _).2 = t at h hcounted ⊢
  by_cases hm : attempt > maxRewinds
  case pos =>
    rw [if_pos hm, exec_bind_error _ _ (exec_fail ..)] at h ⊢
    rw [hcounted, ← Except.error.inj h]
    exact .exceeded hadmitted rfl
  rw [if_neg hm] at h ⊢
  simp only at h ⊢
  obtain ⟨checked, hchecked, hstop⟩ :=
    exists_checked_planFor hw failed.1 key failed.1.directDeps loss runfiles t
  rw [exec_bind] at h ⊢
  generalize exec world (planFor failed.1 key failed.1.directDeps loss runfiles) t = planning
    at h hchecked hstop ⊢
  obtain ⟨stop' | plan, u⟩ := planning
  · rw [← Except.error.inj h]
    rw [hcounted] at hchecked
    exact .unplanned hadmitted (hchecked.fault?_ne_limitExceeded (hstop stop' rfl)) hchecked.sameButMemory
  -- the plan is found, so the handling does not fail
  · refine absurd h (Recounts.exec_ne_error ?_ world u stop)
    refine .bind_any (recounts_invalidateAll _) fun _ _ => ?_
    exact .bind_any (recounts_evictAll _) fun _ _ => .pure trivial

end Keeps

end Planning

/-! ### Builds whose flag changes between steps -/

/-- What others do to the flag of a build right before each step of a computation, by the number of the step:
they may cancel the build, take that back, or leave the flag as it is. -/
abbrev Signals := Nat → Bool → Bool

namespace Signals

/-- The build is cancelled right before step number `n`, and at no other time. -/
def cancelAt (n : Nat) : Signals := fun i flag => flag || i == n

/-- The flag after the first signals. -/
def flagAfter (signals : Signals) (flag : Bool) : Nat → Bool
  | 0 => flag
  | n + 1 => signals n (signals.flagAfter flag n)

end Signals

namespace Build

/-- Let the flag change. -/
def signal (b : Build) (change : Bool → Bool) : Build := { b with interrupted := change b.interrupted }

/-- Builds that are equal with the flag apart. -/
theorem eq_of_clearInterrupt_eq {b b' : Build} (h : b'.clearInterrupt = b.clearInterrupt) :
    b' = { b with interrupted := b'.interrupted } :=
  congrArg (fun c : Build => { c with interrupted := b'.interrupted }) h

/-- Answers the steps of a computation on a build whose flag changes between them. A state is a build and the
number of the steps that were taken. -/
def signalled (g : Graph) (reporter : Reporter) (signals : Signals) : World g.roster (Build × Nat) where
  answer step s :=
    let (answer, b) := (world g reporter).answer step (s.1.signal (signals s.2))
    (answer, b, s.2 + 1)

variable {g : Graph} {reporter : Reporter} {signals : Signals}

/-- The flag apart, a build is kept. -/
theorem keeps_signalled (g : Graph) (reporter : Reporter) (signals : Signals) :
    (signalled g reporter signals).Keeps reporter fun s => s.1.clearInterrupt where
  files :=
    { record := fun _ _ _ => ⟨rfl, rfl, rfl⟩
      report := by
        intro message s
        refine ⟨rfl, ?_, rfl⟩
        show ((s.1.signal _).take reporter message).clearInterrupt = s.1.clearInterrupt.take reporter message
        unfold take
        split <;> rfl }
  attempt _ _ := rfl
  query step s hq := by
    obtain ⟨husual, hsame⟩ := world_answer_of_isQuery g reporter step (s.1.signal (signals s.2)) hq
    refine ⟨husual, ?_⟩
    show ((world g reporter).answer step _).2.clearInterrupt = _
    rw [hsame]
    rfl

/-- The steps of a computation leave the flag to the signals. -/
theorem interrupted_run_signalled {α : Type} {flag : Bool} (p : Procedure g.roster α) {s : Build × Nat}
    (h : s.1.interrupted = signals.flagAfter flag s.2) :
    (p.run (signalled g reporter signals) s).2.1.interrupted =
      signals.flagAfter flag (p.run (signalled g reporter signals) s).2.2 := by
  induction p generalizing s with
  | done value => exact h
  | ask step next ih =>
    refine ih _ ?_
    show ((world g reporter).answer step _).2.interrupted = signals s.2 (signals.flagAfter flag s.2)
    rw [← h]
    exact interrupted_answer ..

/-- Without signals a computation runs as it does alone. -/
theorem run_signalled_id {α : Type} (reporter : Reporter) (p : Procedure g.roster α) (s : Build × Nat) :
    (p.run (signalled g reporter fun _ => id) s).1 = (p.run (world g reporter) s.1).1 ∧
      (p.run (signalled g reporter fun _ => id) s).2.1 = (p.run (world g reporter) s.1).2 := by
  induction p generalizing s with
  | done value => exact ⟨rfl, rfl⟩
  | ask step next ih => exact ih _ ((signalled g reporter fun _ => id).answer step s).2

end Build

/-- Whether a computation was ended by a cancellation. -/
def wasInterrupted {α : Type} : Except Stop α → Bool
  | .error (.failure .interrupted) => true
  | _ => false

theorem eq_of_wasInterrupted {α : Type} {result : Except Stop α} (h : wasInterrupted result = true) :
    result = .error (.failure .interrupted) := by
  unfold wasInterrupted at h
  split at h
  · rfl
  · cases h

namespace Session

/-- Handle the loss of inputs of one action while the flag of the build changes. -/
def handleUnder (s : Session) (signals : Signals) (key : ActionKey) (loss : Loss) :
    Except Stop Outcome × Session :=
  let (result, build, _) :=
    exec (Build.signalled s.graph s.reporter signals) (s.handling key loss) (s.build, 0)
  (result, { s with build })

variable {s s' : Session} {signals : Signals} {key : ActionKey} {loss : Loss} {stop : Stop}

/-- Without signals a loss is handled as it is alone. -/
theorem handleUnder_id (s : Session) (key : ActionKey) (loss : Loss) :
    s.handleUnder (fun _ => id) key loss = s.handle key loss := by
  obtain ⟨hresult, hbuild⟩ :=
    Build.run_signalled_id s.reporter (s.handling key loss).run (s.build, 0)
  exact Prod.ext hresult (congrArg (fun build => { s with build }) hbuild)

/-- A handling is refused if the build is cancelled when it begins, or if the action is not known. -/
theorem refused_signalled_iff :
    Planning.Refused (Build.signalled s.graph s.reporter signals) key (s.build, 0) ↔
      signals 0 s.build.interrupted = true ∨ key ∉ s.graph.actions := by
  refine or_congr_right ?_
  show (s.graph.lookup key).isOk = false ↔ _
  cases hl : s.graph.lookup key with
  | error failure => exact iff_of_true rfl (Graph.lookup_eq_error.1 hl).1
  | ok action =>
    have hk : key ∈ s.graph.actions :=
      Std.ExtTreeMap.mem_iff_isSome_getElem?.2 (Graph.lookup_eq_ok.1 hl ▸ rfl)
    exact iff_of_false nofun (not_not_intro hk)

/-- The flag apart, a failed handling leaves one of the builds that `Fails` lists. -/
theorem fails_handleUnder (h : s.handleUnder signals key loss = (.error stop, s')) :
    Planning.Fails (signals 0 s.build.interrupted = true ∨ key ∉ s.graph.actions) key
      s.build.clearInterrupt stop s'.build.clearInterrupt := by
  obtain ⟨hstop, rfl⟩ := Prod.mk.inj h
  rw [← refused_signalled_iff]
  exact Planning.fails_handle (Build.keeps_signalled s.graph s.reporter signals) s.maxRewinds
    s.graph.runfilesOwners key loss (s.build, 0) hstop

theorem exists_flagAfter (h : s.handleUnder signals key loss = (.error stop, s')) :
    ∃ n, s'.build.interrupted = signals.flagAfter s.build.interrupted n := by
  obtain ⟨-, rfl⟩ := Prod.mk.inj h
  exact ⟨_, Build.interrupted_run_signalled (s.handling key loss).run rfl⟩

/-- **A failed handling leaves nodes and cache alone**, whatever makes it fail, and whenever the build is
cancelled meanwhile: no node and no last execution has been touched. Refused at once, it leaves the whole
build as it was; an action that was rewound too often counts one attempt more; and what else goes wrong adds
losses of that action to the history besides. The flag is what the signals make of it. -/
theorem frame_handleUnder (s s' : Session) (signals : Signals) (key : ActionKey) (loss : Loss) (stop : Stop)
    (h : s.handleUnder signals key loss = (.error stop, s')) :
    s'.build.evaluation = s.build.evaluation ∧ s'.build.cache = s.build.cache ∧
    (∃ n, s'.build.interrupted = signals.flagAfter s.build.interrupted n) ∧
    (signals 0 s.build.interrupted = true ∨ key ∉ s.graph.actions →
      s'.build = { s.build with interrupted := s'.build.interrupted }) ∧
    (stop.fault? = some .limitExceeded →
      s'.build = { s.build.countAttempt key with interrupted := s'.build.interrupted }) ∧
    (signals 0 s.build.interrupted = false → key ∈ s.graph.actions →
      s'.build.attempts = (s.build.countAttempt key).attempts ∧
      (∀ l ∈ s.build.history, l ∈ s'.build.history) ∧
      ∀ l ∈ s'.build.history, l ∈ s.build.history ∨ l.key = key) := by
  have hflag := exists_flagAfter h
  have hfails := fails_handleUnder h
  generalize hleft : s'.build.clearInterrupt = left at hfails
  cases hfails with
  | refused hr hf =>
    have hbuild := Build.eq_of_clearInterrupt_eq hleft
    refine ⟨?_, ?_, hflag, fun _ => hbuild, fun he => ?_, fun hi hk => absurd hr ?_⟩
    · rw [hbuild]
    · rw [hbuild]
    · rw [hf] at he
      cases he
    · rw [hi, not_or]
      exact ⟨Bool.false_ne_true, not_not_intro hk⟩
  | exceeded hr hf =>
    have hbuild := Build.eq_of_clearInterrupt_eq (b := s.build.countAttempt key) hleft
    refine ⟨?_, ?_, hflag, fun h => absurd h hr, fun _ => hbuild, fun _ _ => ?_⟩
    · rw [hbuild]
      rfl
    · rw [hbuild]
      rfl
    · rw [hbuild]
      exact ⟨rfl, fun _ => id, fun _ => Or.inl⟩
  | unplanned hr hf hsame =>
    subst hleft
    exact ⟨hsame.evaluation, hsame.cache, hflag, fun h => absurd h hr, fun h => absurd h hf,
      fun _ _ => ⟨hsame.attempts, fun _ => hsame.remembered, fun _ => hsame.own⟩⟩

/-- The build is cancelled in the middle of the walk: `//p#0` has been taken off the queue, and its input is
about to be spread to. The loss is remembered then, and nothing has been restarted. -/
theorem frame_handleUnder_halfway : ∃ s',
    halfway.handleUnder (.cancelAt 9) ⟨"//f", 0⟩ halfwayLoss = (.error (.failure .interrupted), s') ∧
    s'.build.evaluation = halfway.build.evaluation ∧ s'.build.cache = halfway.build.cache ∧
    Signals.cancelAt 9 0 halfway.build.interrupted = false ∧ ⟨"//f", 0⟩ ∈ halfway.graph.actions ∧
    s'.build.attempts = (halfway.build.countAttempt ⟨"//f", 0⟩).attempts ∧
    (∀ l ∈ halfway.build.history, l ∈ s'.build.history) ∧
    (∀ l ∈ s'.build.history, l ∈ halfway.build.history ∨ l.key = ⟨"//f", 0⟩) ∧
    ⟨⟨"//f", 0⟩, "1"⟩ ∈ s'.build.history ∧ s'.build.interrupted = true := by
  have hstop : (halfway.handleUnder (.cancelAt 9) ⟨"//f", 0⟩ halfwayLoss).1 = .error (.failure .interrupted) :=
    eq_of_wasInterrupted (by decide +kernel)
  have hknown : (⟨"//f", 0⟩ : ActionKey) ∈ halfway.graph.actions := by decide +kernel
  obtain ⟨hevaluation, hcache, -, -, -, hrest⟩ := frame_handleUnder _ _ _ _ _ _ (Prod.ext hstop rfl)
  obtain ⟨hattempts, hold, hnew⟩ := hrest rfl hknown
  exact ⟨_, Prod.ext hstop rfl, hevaluation, hcache, rfl, hknown, hattempts, hold, hnew,
    by decide +kernel, by decide +kernel⟩

/-- The handling takes 14 steps until its plan is found. A cancellation right before any of them is noticed,
and a later one is not. -/
example : (List.range 20).filter (fun n =>
    wasInterrupted (halfway.handleUnder (.cancelAt n) ⟨"//f", 0⟩ halfwayLoss).1) = List.range 14 := by
  decide +kernel

end Session

end Rewinding
