import Rewinding.Proofs.Running

/-!
# What a run asked, and what it was answered

The trace of a run lists its steps with their answers. Nothing is assumed of the world that answers: it may
answer the same question in different ways, so what a computation found out is what stands in its trace.

`Procedure.Tells` says what holds of the trace and the value with which a computation ends, whatever the
answers are, as long as each is an `allowed` one. `Recounts` says it of computations that may end early, of
both ways to end; a later part of a computation starts from a trace that continues that of an earlier one.
-/

namespace Rewinding

variable {known : List Action} {α β ε δ σ : Type}

/-- A step and what it was answered with. -/
structure Answered (known : List Action) where
  step : Step known
  answer : step.Answer

namespace Procedure

/-- The steps of a run, in order. -/
def trace (world : World known σ) : Procedure known α → σ → List (Answered known)
  | .done _, _ => []
  | .ask step next, state =>
    ⟨step, (world.answer step state).1⟩ ::
      (next (world.answer step state).1).trace world (world.answer step state).2

/-- Going on from the trace `past`, the computation ends with a trace and a value that satisfy `post`, as
long as its steps are answered in `allowed` ways. -/
def Tells (allowed : Answered known → Prop) (post : List (Answered known) → α → Prop) :
    List (Answered known) → Procedure known α → Prop
  | past, .done value => post past value
  | past, .ask step next =>
    ∀ answer, allowed ⟨step, answer⟩ → Tells allowed post (past ++ [⟨step, answer⟩]) (next answer)

/-- What comes after another computation goes on from the state in which that one ends. -/
theorem trace_bind (world : World known σ) (p : Procedure known α) (f : α → Procedure known β) (s : σ) :
    (p >>= f).trace world s =
      p.trace world s ++ (f (p.run world s).1).trace world (p.run world s).2 := by
  show (p.bind f).trace world s = _
  induction p generalizing s with
  | done value => rfl
  | ask step next ih => exact congrArg (_ :: ·) (ih _ _)

/-- The steps of a run are answered by its world. -/
theorem exists_of_mem_trace {world : World known σ} {p : Procedure known α} {s : σ} {step : Step known}
    {answer : step.Answer} (h : ⟨step, answer⟩ ∈ p.trace world s) :
    ∃ t, (world.answer step t).1 = answer := by
  induction p generalizing s with
  | done value => cases h
  | ask step' next ih =>
    obtain he | h := List.mem_cons.1 h
    · cases he
      exact ⟨s, rfl⟩
    · exact ih _ h

namespace Tells

variable {allowed : Answered known → Prop} {past : List (Answered known)}

theorem run {post : List (Answered known) → α → Prop} {p : Procedure known α}
    (hp : p.Tells allowed post past) {world : World known σ}
    (hw : ∀ step s, allowed ⟨step, (world.answer step s).1⟩) (s : σ) :
    post (past ++ p.trace world s) (p.run world s).1 := by
  induction p generalizing past s with
  | done value =>
    rw [trace, List.append_nil]
    exact hp
  | ask step next ih =>
    rw [trace, List.append_cons, run_ask]
    exact ih _ (hp _ (hw step s)) _

/-- A later part of a computation may use that the trace goes on from the one before. -/
theorem bind {mid : List (Answered known) → α → Prop} {post : List (Answered known) → β → Prop}
    {p : Procedure known α} {f : α → Procedure known β} (hp : p.Tells allowed mid past)
    (hf : ∀ later value, past ⊆ later → mid later value → (f value).Tells allowed post later) :
    (p >>= f).Tells allowed post past := by
  show (p.bind f).Tells allowed post past
  induction p generalizing past with
  | done value => exact hf past value (List.Subset.refl _) hp
  | ask step next ih =>
    intro answer ha
    refine ih answer (hp answer ha) fun later value hsub hmid => hf later value ?_ hmid
    exact fun e he => hsub (List.mem_append_left _ he)

theorem mono {post post' : List (Answered known) → α → Prop} {p : Procedure known α}
    (hp : p.Tells allowed post past)
    (h : ∀ later value, past ⊆ later → post later value → post' later value) :
    p.Tells allowed post' past := by
  induction p generalizing past with
  | done value => exact h past value (List.Subset.refl _) hp
  | ask step next ih =>
    intro answer ha
    refine ih answer (hp answer ha) fun later value hsub => h later value ?_
    exact fun e he => hsub (List.mem_append_left _ he)

/-- What is told in two ways holds together. -/
theorem and {post post' : List (Answered known) → α → Prop} {p : Procedure known α}
    (hp : p.Tells allowed post past) (hp' : p.Tells allowed post' past) :
    p.Tells allowed (fun later value => post later value ∧ post' later value) past := by
  induction p generalizing past with
  | done value => exact ⟨hp, hp'⟩
  | ask step next ih => exact fun answer ha => ih answer (hp answer ha) (hp' answer ha)

/-- Fewer answers are allowed. -/
theorem restrict {allowed' : Answered known → Prop} {post : List (Answered known) → α → Prop}
    {p : Procedure known α} (h : ∀ e, allowed' e → allowed e) (hp : p.Tells allowed post past) :
    p.Tells allowed' post past := by
  induction p generalizing past with
  | done value => exact hp
  | ask step next ih => exact fun answer ha => ih answer (hp answer (h _ ha))

end Tells

/-- What only asks ends as it does, when failures are answered that are `usual`. -/
theorem Asks.tells {usual : Failure → Prop} {post : α → Prop} {p : Procedure known α} (hp : p.Asks usual post)
    (past : List (Answered known)) :
    p.Tells (fun e => e.step.Usual usual e.answer) (fun _ value => post value) past := by
  induction p generalizing past with
  | done value => exact hp
  | ask step next ih => exact fun answer ha => ih answer (hp.2 answer ha) _

end Procedure

open Procedure

/-- Going on from the trace `past`, the computation ends with a trace and a result that satisfy `post`, or
early with a trace and a reason that satisfy `stop`, as long as its steps are answered in `allowed` ways. -/
def Recounts (allowed : Answered known → Prop) (past : List (Answered known))
    (x : ExceptT ε (Procedure known) α) (post : List (Answered known) → α → Prop)
    (stop : List (Answered known) → ε → Prop) : Prop :=
  x.run.Tells allowed (fun events => fun | .ok value => post events value | .error e => stop events e) past

namespace Recounts

variable {allowed : Answered known → Prop} {past : List (Answered known)}
  {post : List (Answered known) → α → Prop} {stop : List (Answered known) → ε → Prop}

theorem pure {value : α} (h : post past value) :
    Recounts allowed past (Pure.pure value : ExceptT ε (Procedure known) α) post stop := h

theorem bind {x : ExceptT ε (Procedure known) α} {f : α → ExceptT ε (Procedure known) β}
    {mid : List (Answered known) → α → Prop} {post : List (Answered known) → β → Prop}
    (hx : Recounts allowed past x mid stop)
    (hf : ∀ later value, past ⊆ later → mid later value → Recounts allowed later (f value) post stop) :
    Recounts allowed past (x >>= f) post stop := by
  unfold Recounts at hx ⊢
  rw [ExceptT.run_bind]
  refine Tells.bind hx fun later result hsub hr => ?_
  cases result with
  | ok value => exact hf later value hsub hr
  | error e => exact hr

/-- What follows a part of whose value nothing is to be known. -/
theorem bind_any {x : ExceptT ε (Procedure known) α} {f : α → ExceptT ε (Procedure known) β}
    {post : List (Answered known) → β → Prop} (hx : Recounts allowed past x (fun _ _ => True) stop)
    (hf : ∀ later value, Recounts allowed later (f value) post stop) :
    Recounts allowed past (x >>= f) post stop :=
  hx.bind fun later value _ _ => hf later value

theorem mono {x : ExceptT ε (Procedure known) α} {post' : List (Answered known) → α → Prop}
    {stop' : List (Answered known) → ε → Prop} (hx : Recounts allowed past x post stop)
    (hp : ∀ later value, past ⊆ later → post later value → post' later value)
    (he : ∀ later e, past ⊆ later → stop later e → stop' later e) :
    Recounts allowed past x post' stop' := by
  refine Tells.mono hx fun later result hsub hr => ?_
  cases result with
  | ok value => exact hp later value hsub hr
  | error e => exact he later e hsub hr

/-- What a computation ends with, of the trace of its run. -/
theorem exec {x : ExceptT ε (Procedure known) α} (hx : Recounts allowed [] x post stop)
    {world : World known σ} (hw : ∀ step s, allowed ⟨step, (world.answer step s).1⟩) (s : σ) :
    match (Procedure.exec world x s).1 with
    | .ok value => post (x.run.trace world s) value
    | .error e => stop (x.run.trace world s) e := by
  have hend := Tells.run hx hw s
  rw [List.nil_append] at hend
  unfold Procedure.exec
  generalize (x.run.run world s).1 = result at hend ⊢
  cases result with
  | ok value => exact hend
  | error e => exact hend

/-- A computation that has no reason to end early has a result. -/
theorem exec_ne_error {x : ExceptT ε (Procedure known) α}
    (hx : Recounts (fun _ => True) [] x (fun _ _ => True) fun _ _ => False) (world : World known σ) (s : σ)
    (e : ε) : (Procedure.exec world x s).1 ≠ .error e := by
  intro he
  have hend := @exec _ _ _ _ _ _ _ _ hx world (fun _ _ => trivial) s
  rw [he] at hend
  exact hend

/-- What only asks ends early for the reasons that are known of it. -/
theorem of_inquires {usual : Failure → Prop} {stop : ε → Prop} {x : ExceptT ε (Procedure known) α}
    (hx : Inquires usual stop x) : Recounts (fun e => e.step.Usual usual e.answer) past x
      (fun _ _ => True) fun _ e => stop e :=
  Asks.tells hx past

/-! ### The parts of computations -/

theorem fail {failure : Failure} {stop : List (Answered known) → Stop → Prop}
    (h : stop past (.failure failure)) :
    Recounts allowed past (Attempt.fail failure : Attempt known α) post stop := h

theorem step (s : Step known) {post : List (Answered known) → s.Answer → Prop}
    {stop : List (Answered known) → Stop → Prop}
    (h : ∀ answer, allowed ⟨s, answer⟩ → post (past ++ [⟨s, answer⟩]) answer) :
    Recounts allowed past (Attempt.step s) post stop := h

theorem checkInterrupt {post : List (Answered known) → Unit → Prop}
    {stop : List (Answered known) → Stop → Prop} (hgo : post (past ++ [⟨.interrupted, false⟩]) ())
    (hstop : stop (past ++ [⟨.interrupted, true⟩]) (.failure .interrupted)) :
    Recounts allowed past Attempt.checkInterrupt post stop := by
  intro answer _
  cases answer with
  | false => exact hgo
  | true => exact hstop

theorem discover (a : Artifact) {post : List (Answered known) → Option Producers → Prop}
    {stop : List (Answered known) → Stop → Prop}
    (hgo : ∀ found, post (past ++ [⟨.discover a, .ok found⟩]) found)
    (hstop : ∀ failure, stop (past ++ [⟨.discover a, .error failure⟩]) (.failure failure)) :
    Recounts allowed past (Attempt.discover a) post stop := by
  intro answer _
  cases answer with
  | ok found => exact hgo found
  | error failure => exact hstop failure

theorem lookup (k : ActionKey)
    {post : List (Answered known) → { action : Action // action ∈ known } → Prop}
    {stop : List (Answered known) → Stop → Prop}
    (hgo : ∀ action, allowed ⟨.lookup k, .ok action⟩ → post (past ++ [⟨.lookup k, .ok action⟩]) action)
    (hstop : ∀ failure, stop (past ++ [⟨.lookup k, .error failure⟩]) (.failure failure)) :
    Recounts allowed past (Attempt.lookup k) post stop := by
  intro answer ha
  cases answer with
  | ok action => exact hgo action ha
  | error failure => exact hstop failure

theorem report (message : String) {post : List (Answered known) → Unit → Prop}
    {stop : List (Answered known) → Stop → Prop}
    (hgo : post (past ++ [⟨.report message, none⟩]) ())
    (hstop : ∀ text, stop (past ++ [⟨.report message, some text⟩]) (.crash text)) :
    Recounts allowed past (Attempt.report message) post stop := by
  intro answer _
  cases answer with
  | none => exact hgo
  | some text => exact hstop text

theorem within {x : Attempt known α} {stop : List (Answered known) → Stop × Builder → Prop} (b : Builder)
    (hx : Recounts allowed past x post fun events e => stop events (e, b)) :
    Recounts allowed past (Walk.within b x) post stop := by
  refine Tells.bind hx fun later result _ hr => ?_
  cases result with
  | ok value => exact hr
  | error e => exact hr

theorem adapt {x : ExceptT ε (Procedure known) α} {stop : List (Answered known) → δ → Prop} (f : ε → δ)
    (hx : Recounts allowed past x post fun events e => stop events (f e)) :
    Recounts allowed past (x.adapt f) post stop := by
  refine Tells.bind hx fun later result _ hr => ?_
  cases result with
  | ok value => exact hr
  | error e => exact hr

end Recounts

end Rewinding
