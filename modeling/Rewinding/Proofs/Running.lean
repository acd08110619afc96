import Rewinding.Walk

/-!
# Running computations

What the run of a computation comes to, without opening the computation:

* `exec` runs a computation that may end early, and the `exec_` lemmas say what the parts of such
  computations do to a state;
* `Inquires` says of a computation that it only asks, whatever the answers, and why it may end early;
  such a computation leaves alone what queries leave alone;
* `Yields` says what a computation ends with in a *steady* world, one in which each query has one
  answer. It is the triple in which walks are described: a postcondition for results, another one for
  early ends, and no state to speak of.
-/

namespace Rewinding

variable {known : List Action} {α β ε δ σ : Type}

namespace Procedure

/-- Run a computation that may end early. -/
def exec (world : World known σ) (x : ExceptT ε (Procedure known) α) (s : σ) : Except ε α × σ :=
  x.run.run world s

variable (world : World known σ) (s : σ)

@[simp]
theorem exec_pure (value : α) :
    exec world (pure value : ExceptT ε (Procedure known) α) s = (.ok value, s) := rfl

/-- What follows is run where the first part ends with a value. -/
theorem exec_bind (x : ExceptT ε (Procedure known) α) (f : α → ExceptT ε (Procedure known) β) :
    exec world (x >>= f) s =
      match exec world x s with
      | (.ok value, s) => exec world (f value) s
      | (.error e, s) => (.error e, s) := by
  unfold exec
  rw [ExceptT.run_bind, run_bind]
  generalize x.run.run world s = result
  obtain ⟨value | e, s⟩ := result <;> rfl

theorem exec_bind_ok {x : ExceptT ε (Procedure known) α} {value : α} {t : σ}
    (h : exec world x s = (.ok value, t)) (f : α → ExceptT ε (Procedure known) β) :
    exec world (x >>= f) s = exec world (f value) t := by
  rw [exec_bind, h]

theorem exec_bind_error {x : ExceptT ε (Procedure known) α} {e : ε} {t : σ}
    (h : exec world x s = (.error e, t)) (f : α → ExceptT ε (Procedure known) β) :
    exec world (x >>= f) s = (.error e, t) := by
  rw [exec_bind, h]

theorem exec_adapt (f : ε → δ) (x : ExceptT ε (Procedure known) α) :
    exec world (x.adapt f) s = ((exec world x s).1.mapError f, (exec world x s).2) := by
  show (x.run >>= fun result => pure (result.mapError f)).run world s = _
  rw [run_bind]
  rfl

/-! ### The parts of computations -/

@[simp]
theorem exec_step (step : Step known) :
    exec world (Attempt.step step) s = (.ok (world.answer step s).1, (world.answer step s).2) := rfl

@[simp]
theorem exec_fail (failure : Failure) :
    exec world (Attempt.fail failure : Attempt known α) s = (.error (.failure failure), s) := rfl

theorem exec_ofAnswer (answer : Except Failure α) :
    exec world (Attempt.ofAnswer answer) s = (answer.mapError .failure, s) := by
  cases answer <;> rfl

theorem exec_checkInterrupt :
    exec world Attempt.checkInterrupt s =
      (if (world.answer .interrupted s).1 then .error (.failure .interrupted) else .ok (),
        (world.answer .interrupted s).2) := by
  unfold Attempt.checkInterrupt
  rw [exec_bind, exec_step]
  simp only
  split <;> rfl

theorem exec_discover (artifact : Artifact) :
    exec world (Attempt.discover artifact) s =
      ((world.answer (.discover artifact) s).1.mapError .failure,
        (world.answer (.discover artifact) s).2) := by
  unfold Attempt.discover
  rw [exec_bind, exec_step]
  exact exec_ofAnswer ..

theorem exec_lookup (key : ActionKey) :
    exec world (Attempt.lookup key) s =
      ((world.answer (.lookup key) s).1.mapError .failure, (world.answer (.lookup key) s).2) := by
  unfold Attempt.lookup
  rw [exec_bind, exec_step]
  exact exec_ofAnswer ..

/-- A report either ends the computation or has no result. -/
theorem exec_report (message : String) :
    exec world (Attempt.report message) s =
      ((world.answer (.report message) s).1.elim (.ok ()) fun text => .error (.crash text),
        (world.answer (.report message) s).2) := by
  unfold Attempt.report
  rw [exec_bind, exec_step]
  simp only
  cases (world.answer (.report message) s).1 <;> rfl

theorem exec_within (b : Builder) (x : Attempt known α) :
    exec world (Walk.within b x) s =
      ((exec world x s).1.mapError fun stop => (stop, b), (exec world x s).2) := by
  show (x.run >>= _).run world s = _
  rw [run_bind]
  unfold exec
  generalize x.run.run world s = result
  obtain ⟨value | e, s⟩ := result <;> rfl

/-! ### Computations that only ask -/

end Procedure

namespace Step

/-- The steps that only ask: whether the build was cancelled, and what the graph holds. -/
def IsQuery : Step known → Prop
  | .interrupted | .discover _ | .lookup _ => True
  | _ => False

/-- Whether an answer is no failure, or a `usual` one. -/
def Usual (usual : Failure → Prop) : (step : Step known) → step.Answer → Prop
  | .discover _, .error failure => usual failure
  | .lookup _, .error failure => usual failure
  | _, _ => True

end Step

/-- All steps of a procedure are queries and, as long as they are answered by `usual` failures only,
it ends with a value that satisfies `post`. -/
def Procedure.Asks (usual : Failure → Prop) (post : α → Prop) : Procedure known α → Prop
  | .done value => post value
  | .ask step next => step.IsQuery ∧ ∀ answer, step.Usual usual answer → (next answer).Asks usual post

/-- A computation that only asks and, as long as it is answered by `usual` failures only, ends early
for a reason that satisfies `stop`. -/
def Inquires (usual : Failure → Prop) (stop : ε → Prop) (x : ExceptT ε (Procedure known) α) : Prop :=
  x.run.Asks usual fun | .ok _ => True | .error e => stop e

/-- The computation was ended by a `usual` failure. -/
def Stop.Usual (usual : Failure → Prop) : Stop → Prop
  | .failure reason => usual reason
  | .crash _ => False

section Asks

variable {usual : Failure → Prop}

theorem Procedure.Asks.bind {mid : α → Prop} {post : β → Prop} {p : Procedure known α}
    {f : α → Procedure known β} (hp : p.Asks usual mid)
    (hf : ∀ value, mid value → (f value).Asks usual post) : (p >>= f).Asks usual post := by
  show (p.bind f).Asks usual post
  induction p with
  | done value => exact hf value hp
  | ask step next ih => exact ⟨hp.1, fun answer ha => ih answer (hp.2 answer ha)⟩

/-- What is only asked leaves alone what queries leave alone. -/
theorem Procedure.Asks.run_keeping {post : α → Prop} {world : World known σ} {p : Procedure known α}
    (hp : p.Asks usual post) {f : σ → δ} (hw : ∀ step s, step.IsQuery →
      step.Usual usual (world.answer step s).1 ∧ f (world.answer step s).2 = f s) (s : σ) :
    post (p.run world s).1 ∧ f (p.run world s).2 = f s := by
  induction p generalizing s with
  | done value => exact ⟨hp, rfl⟩
  | ask step next ih =>
    obtain ⟨hu, hs⟩ := hw step s hp.1
    rw [run_ask, ← hs]
    exact ih _ (hp.2 _ hu) _

namespace Inquires

theorem pure {stop : ε → Prop} (value : α) :
    Inquires usual stop (Pure.pure value : ExceptT ε (Procedure known) α) := trivial

theorem bind {stop : ε → Prop} {x : ExceptT ε (Procedure known) α}
    {f : α → ExceptT ε (Procedure known) β} (hx : Inquires usual stop x)
    (hf : ∀ value, Inquires usual stop (f value)) : Inquires usual stop (x >>= f) := by
  unfold Inquires at hx ⊢
  rw [ExceptT.run_bind]
  refine hx.bind fun result hr => ?_
  cases result with
  | ok value => exact hf value
  | error e => exact hr

theorem checkInterrupt (hi : usual .interrupted) :
    Inquires usual (Stop.Usual usual) (Attempt.checkInterrupt : Attempt known Unit) := by
  refine ⟨trivial, fun cancelled _ => ?_⟩
  cases cancelled with
  | true => exact hi
  | false => trivial

theorem discover (artifact : Artifact) :
    Inquires usual (Stop.Usual usual)
      (Attempt.discover artifact : Attempt known (Option Producers)) := by
  refine ⟨trivial, fun answer ha => ?_⟩
  cases answer with
  | error failure => exact ha
  | ok found => trivial

theorem lookup (key : ActionKey) :
    Inquires usual (Stop.Usual usual)
      (Attempt.lookup key : Attempt known { a : Action // a ∈ known }) := by
  refine ⟨trivial, fun answer ha => ?_⟩
  cases answer with
  | error failure => exact ha
  | ok action => trivial

theorem within {x : Attempt known α} (b : Builder) (hx : Inquires usual (Stop.Usual usual) x) :
    Inquires usual (fun e => e.1.Usual usual) (Walk.within b x) := by
  refine Procedure.Asks.bind hx fun result hr => ?_
  cases result with
  | error stop => exact hr
  | ok value => trivial

theorem exec_keeping {stop : ε → Prop} {x : ExceptT ε (Procedure known) α}
    (hx : Inquires usual stop x) {world : World known σ} {f : σ → δ} (hw : ∀ step s, step.IsQuery →
      step.Usual usual (world.answer step s).1 ∧ f (world.answer step s).2 = f s) (s : σ) :
    f (Procedure.exec world x s).2 = f s ∧
      ∀ e, (Procedure.exec world x s).1 = .error e → stop e := by
  obtain ⟨hend, hs⟩ := Procedure.Asks.run_keeping hx hw s
  refine ⟨hs, fun e he => ?_⟩
  have he' : (x.run.run world s).1 = .error e := he
  rw [he'] at hend
  exact hend

theorem exec {stop : ε → Prop} {x : ExceptT ε (Procedure known) α} (hx : Inquires usual stop x)
    {world : World known σ} (hw : ∀ step s, step.IsQuery →
      step.Usual usual (world.answer step s).1 ∧ (world.answer step s).2 = s) (s : σ) :
    (Procedure.exec world x s).2 = s ∧ ∀ e, (Procedure.exec world x s).1 = .error e → stop e :=
  hx.exec_keeping (f := id) hw s

end Inquires

end Asks

/-! ### Results -/

theorem exists_eq_ok {x : Except ε α} (h : x.isOk = true) : ∃ value, x = .ok value := by
  cases x with
  | ok value => exact ⟨value, rfl⟩
  | error e => cases h

theorem eq_ok_of_toOption {x : Except ε α} {value : α} (h : x.toOption = some value) : x = .ok value := by
  cases x with
  | ok found => exact congrArg Except.ok (Option.some.inj h)
  | error e => cases h

/-! ## Steady worlds -/

/-- Answers to the queries of a walk. -/
structure Queries (known : List Action) where
  /-- Whether the build was cancelled. -/
  cancelled : Bool := false
  discover : Artifact → Except Failure (Option Producers)
  lookup : ActionKey → Except Failure { a : Action // a ∈ known }

/-- In the states that are `calm` queries are answered by `q`, and stay so. -/
structure World.Steady (world : World known σ) (calm : σ → Prop) (q : Queries known) : Prop where
  interrupted {s : σ} : calm s →
    (world.answer .interrupted s).1 = q.cancelled ∧ calm (world.answer .interrupted s).2
  discover {s : σ} (artifact : Artifact) : calm s →
    (world.answer (.discover artifact) s).1 = q.discover artifact ∧
      calm (world.answer (.discover artifact) s).2
  lookup {s : σ} (key : ActionKey) : calm s →
    (world.answer (.lookup key) s).1 = q.lookup key ∧ calm (world.answer (.lookup key) s).2

/-- From any calm state `x` ends in a calm one, with a result that satisfies `post` or early for a
reason that satisfies `stop`. -/
def Yields (world : World known σ) (calm : σ → Prop) (x : ExceptT ε (Procedure known) α)
    (post : α → Prop) (stop : ε → Prop) : Prop :=
  ∀ s, calm s → calm (Procedure.exec world x s).2 ∧
    match (Procedure.exec world x s).1 with
    | .ok value => post value
    | .error e => stop e

namespace Yields

variable {world : World known σ} {calm : σ → Prop} {q : Queries known}

theorem pure {post : α → Prop} {stop : ε → Prop} {value : α} (h : post value) :
    Yields world calm (Pure.pure value : ExceptT ε (Procedure known) α) post stop :=
  fun _ hs => ⟨hs, h⟩

theorem bind {x : ExceptT ε (Procedure known) α} {f : α → ExceptT ε (Procedure known) β}
    {mid : α → Prop} {post : β → Prop} {stop : ε → Prop} (hx : Yields world calm x mid stop)
    (hf : ∀ value, mid value → Yields world calm (f value) post stop) :
    Yields world calm (x >>= f) post stop := by
  intro s hs
  obtain ⟨ht, hv⟩ := hx s hs
  rw [Procedure.exec_bind]
  generalize Procedure.exec world x s = result at ht hv
  obtain ⟨e | value, t⟩ := result
  · exact ⟨ht, hv⟩
  · exact hf value hv t ht

theorem mono {x : ExceptT ε (Procedure known) α} {post post' : α → Prop} {stop stop' : ε → Prop}
    (hx : Yields world calm x post stop) (hp : ∀ value, post value → post' value)
    (he : ∀ e, stop e → stop' e) : Yields world calm x post' stop' := by
  intro s hs
  obtain ⟨ht, hv⟩ := hx s hs
  refine ⟨ht, ?_⟩
  generalize Procedure.exec world x s = result at hv
  obtain ⟨e | value, t⟩ := result
  · exact he e hv
  · exact hp value hv

theorem within {x : Attempt known α} {post : α → Prop} {stop : Stop → Prop} (b : Builder)
    (hx : Yields world calm x post stop) :
    Yields world calm (Walk.within b x) post fun e => stop e.1 := by
  intro s hs
  obtain ⟨ht, hv⟩ := hx s hs
  rw [Procedure.exec_within]
  refine ⟨ht, ?_⟩
  generalize Procedure.exec world x s = result at hv
  obtain ⟨e | value, t⟩ := result
  · exact hv
  · exact hv

section Steady

variable (hw : world.Steady calm q)
include hw

theorem checkInterrupt :
    Yields world calm (Attempt.checkInterrupt : Attempt known Unit) (fun _ => q.cancelled = false)
      fun stop => q.cancelled = true ∧ stop = .failure .interrupted := by
  intro s hs
  obtain ⟨ha, ht⟩ := hw.interrupted hs
  rw [Procedure.exec_checkInterrupt, ha]
  refine ⟨ht, ?_⟩
  cases q.cancelled with
  | true => exact ⟨rfl, rfl⟩
  | false => rfl

theorem discover (artifact : Artifact) :
    Yields world calm (Attempt.discover artifact) (fun found => q.discover artifact = .ok found)
      fun stop => ∃ failure, q.discover artifact = .error failure ∧ stop = .failure failure := by
  intro s hs
  obtain ⟨ha, ht⟩ := hw.discover artifact hs
  rw [Procedure.exec_discover, ha]
  refine ⟨ht, ?_⟩
  cases q.discover artifact with
  | error failure => exact ⟨failure, rfl, rfl⟩
  | ok found => rfl

theorem lookup (key : ActionKey) :
    Yields world calm (Attempt.lookup key) (fun action => q.lookup key = .ok action)
      fun stop => ∃ failure, q.lookup key = .error failure ∧ stop = .failure failure := by
  intro s hs
  obtain ⟨ha, ht⟩ := hw.lookup key hs
  rw [Procedure.exec_lookup, ha]
  refine ⟨ht, ?_⟩
  cases q.lookup key with
  | error failure => exact ⟨failure, rfl, rfl⟩
  | ok action => rfl

end Steady

end Yields

end Rewinding
