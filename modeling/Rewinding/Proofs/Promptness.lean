import Rewinding.Proofs.Provenance
import Rewinding.Proofs.Verdicts

/-!
# Cancellations are prompt

A computation that was cancelled should not keep the graph busy. Queries come from nested loops, over lost
artifacts, over the queue, over the inputs of an action and over the keys that a template expanded to; each
is preceded by a check of its own (`Procedure.ChecksFirst`).

The build may be cancelled before a computation or during any of its queries (`World.Latched`). However far
the computation has come by then, what is left of it asks nothing (`stopsAsking_of_latched`).
-/

namespace Rewinding

open Procedure Planning

variable {known : List Action} {α β ε σ γ : Type} {world : World known σ} {cancelled : σ → Bool}

/-! ### The rest of a run -/

namespace Procedure

/-- What is left of a computation after `n` steps of its run, and the state that it goes on from. -/
def after (world : World known σ) (n : Nat) (p : Procedure known α) (s : σ) : Procedure known α × σ :=
  (fun rest => rest.1.advance world rest.2)^[n] (p, s)

theorem after_succ (world : World known σ) (n : Nat) (p : Procedure known α) (s : σ) :
    p.after world (n + 1) s = (p.advance world s).1.after world n (p.advance world s).2 := rfl

/-- The steps that are left of a run are those behind the first `n`. -/
theorem drop_trace (world : World known σ) (n : Nat) (p : Procedure known α) (s : σ) :
    (p.trace world s).drop n = (p.after world n s).1.trace world (p.after world n s).2 := by
  induction n generalizing p s with
  | zero => rfl
  | succ n ih =>
    rw [after_succ, ← ih]
    cases p with
    | done value => simp [trace, advance]
    | ask step next => rfl

/-- Where the flag is set after `n` steps of a run, the steps behind these ask the graph nothing. -/
def StopsAsking (world : World known σ) (cancelled : σ → Bool) (p : Procedure known α) : Prop :=
  ∀ n s, cancelled (p.after world n s).2 → ∀ e ∈ (p.trace world s).drop n, e.step.asksGraph = false

end Procedure

/-- Checks for cancellation read a flag. Queries of the graph may set it, and nothing unsets it. -/
structure World.Latched (world : World known σ) (cancelled : σ → Bool) : Prop where
  check (s : σ) : (world.answer .interrupted s).1 = cancelled s
  keeps {step : Step known} (s : σ) : step.asksGraph = false →
    cancelled (world.answer step s).2 = cancelled s
  stays (step : Step known) {s : σ} : cancelled s → cancelled (world.answer step s).2

/-! ### Checks before queries -/

/-- Between two queries, and before the first, the computation checks for a cancellation, and it makes no
query after a check that finds one. `clear` is whether it may make one right away. -/
inductive Procedure.ChecksFirst : (clear : Bool) → Procedure known α → Prop where
  | done {clear : Bool} {value : α} : ChecksFirst clear (.done value)
  | check {clear : Bool} {next : Bool → Procedure known α} : ChecksFirst false (next true) →
      ChecksFirst true (next false) → ChecksFirst clear (.ask .interrupted next)
  | query {step : Step known} {next : step.Answer → Procedure known α} : step.asksGraph = true →
      (∀ answer, ChecksFirst false (next answer)) → ChecksFirst true (.ask step next)
  | other {clear : Bool} {step : Step known} {next : step.Answer → Procedure known α} :
      step.asksGraph = false → (∀ answer, ChecksFirst clear (next answer)) →
      ChecksFirst clear (.ask step next)

namespace Procedure.ChecksFirst

variable {clear : Bool} {p : Procedure known α}

theorem mono {clear' : Bool} (hp : p.ChecksFirst clear) (h : clear = true → clear' = true) :
    p.ChecksFirst clear' := by
  induction hp generalizing clear' with
  | done => exact .done
  | check htrue hfalse => exact .check htrue hfalse
  | query hasks hnext =>
    obtain rfl := h rfl
    exact .query hasks hnext
  | other hasks _ ih => exact .other hasks fun answer => ih answer h

/-- What follows makes its own checks. -/
theorem bind {f : α → Procedure known β} (hp : p.ChecksFirst clear)
    (hf : ∀ value, (f value).ChecksFirst false) : (p >>= f).ChecksFirst clear := by
  show (p.bind f).ChecksFirst clear
  induction hp with
  | done => exact (hf _).mono nofun
  | check _ _ ihTrue ihFalse => exact .check ihTrue ihFalse
  | query hasks _ ih => exact .query hasks ih
  | other hasks _ ih => exact .other hasks ih

theorem run_bind {x : ExceptT ε (Procedure known) α} {f : α → ExceptT ε (Procedure known) β}
    (hx : x.run.ChecksFirst clear) (hf : ∀ value, (f value).run.ChecksFirst false) :
    (x >>= f).run.ChecksFirst clear := by
  rw [ExceptT.run_bind]
  refine hx.bind fun result => ?_
  cases result with
  | ok value => exact hf value
  | error e => exact .done

theorem report (message : String) :
    (Attempt.report message : Attempt known Unit).run.ChecksFirst clear := by
  refine .other rfl fun text => ?_
  cases text <;> exact .done

/-- **One step.** As long as a computation may make a query right away, it was not cancelled. -/
theorem advance (hw : world.Latched cancelled) (hp : p.ChecksFirst clear) {s : σ}
    (hs : clear = true → cancelled s = false) : ∃ clear', (p.advance world s).1.ChecksFirst clear' ∧
      (clear' = true → cancelled (p.advance world s).2 = false) := by
  cases hp with
  | done => exact ⟨clear, .done, hs⟩
  | @check _ next htrue hfalse =>
    show ∃ clear', (next (world.answer .interrupted s).1).ChecksFirst clear' ∧
      (clear' = true → cancelled (world.answer .interrupted s).2 = false)
    rw [hw.check, hw.keeps s rfl]
    cases hc : cancelled s with
    | true => exact ⟨false, htrue, nofun⟩
    | false => exact ⟨true, hfalse, fun _ => rfl⟩
  | query _ hnext => exact ⟨false, hnext _, nofun⟩
  | other hasks hnext => exact ⟨clear, hnext _, fun h => (hw.keeps s hasks).trans (hs h)⟩

theorem after (hw : world.Latched cancelled) (n : Nat) (hp : p.ChecksFirst clear) {s : σ}
    (hs : clear = true → cancelled s = false) : ∃ clear', (p.after world n s).1.ChecksFirst clear' ∧
      (clear' = true → cancelled (p.after world n s).2 = false) := by
  induction n generalizing p s clear with
  | zero => exact ⟨clear, hp, hs⟩
  | succ n ih =>
    obtain ⟨clear', hp', hs'⟩ := hp.advance hw hs
    exact ih hp' hs'

/-- A computation that was cancelled, and has to check before it asks, asks nothing. -/
theorem not_asksGraph (hw : world.Latched cancelled) (hp : p.ChecksFirst clear) {s : σ}
    (hs : cancelled s = true) (hclear : clear = false) :
    ∀ e ∈ p.trace world s, e.step.asksGraph = false := by
  induction hp generalizing s with
  | done => exact fun e he => absurd he List.not_mem_nil
  | @check _ next _ _ ihTrue _ =>
    intro e he
    obtain rfl | he := List.mem_cons.1 he
    · rfl
    rw [hw.check, hs] at he
    exact ihTrue (hw.stays _ hs) rfl e he
  | query => cases hclear
  | other hasks _ ih =>
    intro e he
    obtain rfl | he := List.mem_cons.1 he
    · exact hasks
    · exact ih _ (hw.stays _ hs) hclear e he

/-- **A whole run.** A computation that checks before it asks stops asking where it is cancelled. -/
theorem stopsAsking (hw : world.Latched cancelled) (hp : p.ChecksFirst false) :
    p.StopsAsking world cancelled := by
  intro n s hset
  obtain ⟨clear, hrest, hclear⟩ := hp.after hw n (s := s) nofun
  rw [drop_trace]
  refine hrest.not_asksGraph hw hset (Bool.eq_false_iff.2 fun h => ?_)
  rw [hclear h] at hset
  cases hset

end Procedure.ChecksFirst

/-- What heeds cancellations after a query checks before the next one. -/
theorem Procedure.Heeds.checksFirst {stopped : α → Prop} {ends : Bool → α → Prop} {asked : Bool}
    {p : Procedure known α} (hp : p.Heeds stopped ends asked) : p.ChecksFirst (!asked) := by
  induction hp with
  | done => exact .done
  | check htrue _ _ ih =>
    refine .check ?_ ih
    rw [htrue]
    exact .done
  | @ask step _ _ ih =>
    cases hasks : step.asksGraph with
    | true => exact .query hasks fun answer => by simpa [hasks] using ih answer
    | false => exact .other hasks fun answer => by simpa [hasks] using ih answer

/-! ### Planning checks before it asks -/

namespace Planning

theorem checksFirst_recordAll (failed : Action) (key : ActionKey) (loss : Loss)
    (lost : List (String × Input)) :
    (recordAll failed key loss lost : Attempt known Unit).run.ChecksFirst false := by
  induction lost with
  | nil => exact .done
  | cons entry lost ih =>
    refine .other rfl fun new => ?_
    cases new with
    | true => exact ih
    | false => exact .run_bind (.report _) fun _ => .done

theorem checksFirst_responsible (failed : Action) (directDeps : Std.ExtTreeSet Node) (loss : Loss)
    (runfiles : OwnerLookup) :
    (responsible failed directDeps loss runfiles : Attempt known Responsible).run.ChecksFirst false := by
  unfold responsible
  split
  case h_1 => exact .done
  case h_2 failure _ =>
    split
    · exact .run_bind (.report _) fun _ => .done
    · exact .done

/-- What comes before the walk asks nothing, and the walk begins with a check. -/
theorem checksFirst_planFor (failed : Action) (key : ActionKey) (directDeps : Std.ExtTreeSet Node)
    (loss : Loss) (runfiles : OwnerLookup) :
    (planFor failed key directDeps loss runfiles : Attempt known Plan).run.ChecksFirst false := by
  unfold planFor checkNotRepeated
  refine .run_bind (checksFirst_recordAll failed key loss _) fun _ => ?_
  refine .run_bind (checksFirst_responsible failed directDeps loss runfiles) fun r => ?_
  have hwalk : (walkFrom key (owners r) : Attempt known Plan).run.ChecksFirst false :=
    .run_bind ((Walk.heedful_rewindAll true _ _).checksFirst.bind fun _ => .done) fun _ => .done
  simp only
  split
  · exact .run_bind .done fun _ => hwalk
  · exact hwalk

end Planning

/-- **A cancellation is prompt.** Once the build is cancelled, be it before or during a query, a computation
of a plan asks the graph nothing more until it ends. The same goes for the walk from one artifact, and for
the search for the actions that make one. -/
theorem stopsAsking_of_latched (hw : world.Latched cancelled) :
    (∀ failed key directDeps loss runfiles,
      (planFor failed key directDeps loss runfiles : Attempt known Plan).run.StopsAsking world cancelled) ∧
    (∀ b artifact, (Walk.rewind b artifact : Walk known Builder).run.StopsAsking world cancelled) ∧
    ∀ artifact, (Walk.producersOf artifact : Attempt known (Option (List { a : Action // a ∈ known }))
      ).run.StopsAsking world cancelled :=
  ⟨fun failed key directDeps loss runfiles =>
      (checksFirst_planFor failed key directDeps loss runfiles).stopsAsking hw,
    fun b artifact => (Walk.heedful_rewind true b artifact).checksFirst.stopsAsking hw,
    fun artifact => (Walk.heedful_producersOf true artifact).checksFirst.stopsAsking hw⟩

namespace Accessor

/-- Whenever the build is cancelled during a query, its flag stays set. -/
theorem latched (x : Accessor known γ) (reporter : Reporter) (moment : Option Nat) :
    (x.world reporter moment).Latched fun s => s.build.interrupted where
  check _ := rfl
  keeps {step} s h := by
    rw [world_answer, State.cancelAt_of_not_asked ((x.asked_answer reporter step s).trans h)]
    exact x.build_interrupted_answer reporter step s
  stays step {s} h := by
    rw [world_answer]
    unfold State.cancelAt
    split
    · rfl
    · exact (x.build_interrupted_answer reporter step s).trans h

/-- The build is cancelled when `out/x` was discovered to depend on `//r#0`. That is not looked up, and
nothing is asked about `out/b`, which was lost as well: there would have been three more queries. -/
theorem stopsAsking_of_latched_relay :
    ((relay.world .log (some 4)).Latched fun s => s.build.interrupted) ∧
    (planRelay.run.after (relay.world .log (some 4)) 11 relayStart).2.build.interrupted = true ∧
    (∀ e ∈ (planRelay.run.trace (relay.world .log (some 4)) relayStart).drop 11,
      e.step.asksGraph = false) ∧
    (exec (relay.world .log (some 4)) planRelay relayStart).2.queries = 4 ∧
    (exec (relay.world .log none) planRelay relayStart).2.queries = 7 := by
  have hlatched := latched relay .log (some 4)
  have hset : (planRelay.run.after (relay.world .log (some 4)) 11 relayStart).2.build.interrupted = true := by
    decide +kernel
  refine ⟨hlatched, hset, ?_, by decide +kernel, by decide +kernel⟩
  exact (stopsAsking_of_latched hlatched).1 _ _ _ _ _ _ _ hset

end Accessor

end Rewinding
