import Rewinding.Build
import Rewinding.Planning
import Rewinding.Proofs.Walk

/-!
# Builds that are cancelled during a query

While a plan is computed, the build may be cancelled at any time, so also while the graph answers a
query. A walk checks for that before each query and before each action that it takes off its queue.
So a cancellation during a query is noticed by the next check, if there is one; it is missed just if
the query is the last thing that the computation does (`Accessor.plan_of_interrupted`), and then the
plan is what it would have been (`Accessor.cancellation_missed` is a case of that).

* `Accessor` answers queries from a state of its own, so nothing is assumed of the answers; it keeps a
  log of the steps, and cancels the build during a query of one's choice.
* `Procedure.Heeds` says of a computation that after a query it does nothing but end or check for a
  cancellation, and ends where it finds one. `Heeds.run_of_interrupted` compares its run with the one
  that is not cancelled; `heedful_planFor` says that planning is such a computation.
* `Accessor.asked_rewind` says when a query is the last step of the walk from one artifact: if that
  found no action that is new to the plan, or if the last one that it found passes inputs on.
-/

namespace Rewinding

open Procedure Planning

variable {known : List Action} {α β γ δ ε : Type}

/-! ### Graphs of all kinds -/

/-- Whether a step is a query of the graph. -/
def Step.asksGraph : Step known → Bool
  | .discover _ | .lookup _ => true
  | _ => false

/-- Answers queries of a graph from a state of type `γ`. A query may change that state, so an answer
may depend on all queries before, and on whatever else happens to the graph meanwhile. -/
structure Accessor (known : List Action) (γ : Type) where
  discover : Artifact → γ → Except Failure (Option Producers) × γ
  lookup : ActionKey → γ → Except Failure { a : Action // a ∈ known } × γ

namespace Accessor

structure State (known : List Action) (γ : Type) where
  build : Build
  graph : γ
  /-- The steps that were taken. -/
  log : List (Step known) := []

namespace State

/-- The number of queries. -/
def queries (s : State known γ) : Nat := s.log.countP Step.asksGraph

/-- Whether the last step was a query. -/
def asked (s : State known γ) : Bool := s.log.getLast?.any Step.asksGraph

/-- The last step was query number `n`. -/
def EndsWithQuery (n : Nat) (s : State known γ) : Prop := s.queries = n ∧ s.asked

/-- Cancel the build if the last step was query number `moment`. -/
def cancelAt (moment : Option Nat) (s : State known γ) : State known γ :=
  if s.asked ∧ moment = some s.queries then { s with build := s.build.cancel } else s

end State

/-- The state of the graph after a step. -/
def after (x : Accessor known γ) : Step known → γ → γ
  | .discover artifact, graph => (x.discover artifact graph).2
  | .lookup key, graph => (x.lookup key graph).2
  | _, graph => graph

/-- Answer a step, and write it down. -/
def answer (x : Accessor known γ) (reporter : Reporter) (step : Step known) (s : State known γ) :
    step.Answer × State known γ :=
  let (answer, build) := s.build.answer reporter (fun artifact => (x.discover artifact s.graph).1)
    (fun key => (x.lookup key s.graph).1) step
  (answer, { build, graph := x.after step s.graph, log := s.log ++ [step] })

/-- Answers steps, and cancels the build during query number `moment`. -/
def world (x : Accessor known γ) (reporter : Reporter) (moment : Option Nat) :
    World known (State known γ) where
  answer step s :=
    let (answer, s) := x.answer reporter step s
    (answer, s.cancelAt moment)

namespace State

@[simp]
theorem cancelAt_none (s : State known γ) : s.cancelAt none = s := if_neg fun h => nomatch h.2

theorem cancelAt_of_not {n : Nat} {s : State known γ} (h : ¬s.EndsWithQuery n) :
    s.cancelAt (some n) = s :=
  if_neg fun ⟨hasked, hn⟩ => h ⟨(Option.some.inj hn).symm, hasked⟩

theorem interrupted_cancelAt {n : Nat} {s : State known γ} (h : s.EndsWithQuery n) :
    (s.cancelAt (some n)).build.interrupted = true := by
  unfold cancelAt
  rw [if_pos ⟨h.2, congrArg some h.1.symm⟩]
  rfl

@[simp]
theorem log_cancelAt (moment : Option Nat) (s : State known γ) : (s.cancelAt moment).log = s.log := by
  unfold cancelAt
  split <;> rfl

end State

variable (x : Accessor known γ) (reporter : Reporter)

@[simp]
theorem answer_interrupted (s : State known γ) : x.answer reporter .interrupted s =
    (s.build.interrupted, { s with log := s.log ++ [.interrupted] }) := rfl

@[simp]
theorem log_answer (step : Step known) (s : State known γ) :
    (x.answer reporter step s).2.log = s.log ++ [step] := rfl

theorem queries_answer (step : Step known) (s : State known γ) :
    (x.answer reporter step s).2.queries = s.queries + step.asksGraph.toNat := by
  unfold State.queries
  rw [log_answer, List.countP_append, List.countP_singleton]
  cases step.asksGraph <;> rfl

@[simp]
theorem asked_answer (step : Step known) (s : State known γ) :
    (x.answer reporter step s).2.asked = step.asksGraph := by
  unfold State.asked
  rw [log_answer, List.getLast?_concat]
  rfl

/-- No step cancels the build. -/
@[simp]
theorem build_interrupted_answer (step : Step known) (s : State known γ) :
    (x.answer reporter step s).2.build.interrupted = s.build.interrupted :=
  Build.interrupted_answer ..

@[simp]
theorem world_answer (moment : Option Nat) (step : Step known) (s : State known γ) :
    (x.world reporter moment).answer step s =
      ((x.answer reporter step s).1, (x.answer reporter step s).2.cancelAt moment) := rfl

/-- A run writes its steps down behind those that were taken before. -/
theorem exists_log_run (moment : Option Nat) (p : Procedure known α) (s : State known γ) :
    ∃ steps, (p.run (x.world reporter moment) s).2.log = s.log ++ steps := by
  induction p generalizing s with
  | done value => exact ⟨[], (List.append_nil _).symm⟩
  | ask step next ih =>
    obtain ⟨steps, hsteps⟩ := ih _ ((x.world reporter moment).answer step s).2
    refine ⟨step :: steps, ?_⟩
    rw [run_ask, hsteps, world_answer, State.log_cancelAt, log_answer, List.append_assoc,
      List.singleton_append]

/-- A query that is followed by a check for cancellation is not the last step. -/
theorem not_endsWithQuery_of_check (next : Bool → Procedure known α) (s : State known γ) :
    ¬((Procedure.ask .interrupted next).run (x.world reporter none) s).2.EndsWithQuery s.queries := by
  obtain ⟨steps, hsteps⟩ := x.exists_log_run reporter none (next s.build.interrupted)
    (x.answer reporter .interrupted s).2
  rw [run_ask, world_answer, State.cancelAt_none, answer_interrupted]
  rw [answer_interrupted] at hsteps
  generalize ((next s.build.interrupted).run (x.world reporter none) _).2 = t at hsteps ⊢
  rintro ⟨hcount, hlast⟩
  unfold State.queries at hcount
  unfold State.asked at hlast
  rw [hsteps, List.append_assoc, List.countP_append] at hcount
  rw [hsteps] at hlast
  obtain rfl | ⟨before, query, rfl⟩ := List.eq_nil_or_concat steps
  · rw [List.append_nil, List.getLast?_concat] at hlast
    exact Bool.noConfusion hlast
  · rw [List.concat_eq_append, ← List.append_assoc, List.getLast?_concat] at hlast
    have hone : [query].countP Step.asksGraph = 1 := List.countP_singleton.trans (if_pos hlast)
    rw [List.concat_eq_append, List.countP_append, List.countP_append] at hcount
    omega

end Accessor

/-! ### Computations that check for cancellation -/

/-- After a query the computation ends or checks for a cancellation, and where it finds one it ends with
a `stopped` value. `asked` is whether the step before was a query; `ends` holds of that and the value
when the computation ends. -/
inductive Procedure.Heeds (stopped : α → Prop) (ends : Bool → α → Prop) :
    (asked : Bool) → Procedure known α → Prop where
  | done {asked : Bool} {value : α} : ends asked value → Heeds stopped ends asked (.done value)
  | check {asked : Bool} {next : Bool → Procedure known α} {value : α} : next true = .done value →
      stopped value → Heeds stopped ends false (next false) →
      Heeds stopped ends asked (.ask .interrupted next)
  | ask {step : Step known} {next : step.Answer → Procedure known α} :
      (∀ answer, Heeds stopped ends step.asksGraph (next answer)) →
      Heeds stopped ends false (.ask step next)

namespace Procedure.Heeds

theorem mono {stopped : α → Prop} {ends ends' : Bool → α → Prop} {asked : Bool}
    {p : Procedure known α} (hp : p.Heeds stopped ends asked)
    (h : ∀ asked value, ends asked value → ends' asked value) : p.Heeds stopped ends' asked := by
  induction hp with
  | done hend => exact .done (h _ _ hend)
  | check htrue hstop _ ih => exact .check htrue hstop ih
  | ask _ ih => exact .ask ih

theorem bind {stopped : α → Prop} {stopped' : β → Prop} {mid : Bool → α → Prop}
    {ends : Bool → β → Prop} {asked : Bool} {p : Procedure known α} {f : α → Procedure known β}
    (hp : p.Heeds stopped mid asked)
    (hstop : ∀ value, stopped value → ∃ result, f value = .done result ∧ stopped' result)
    (hf : ∀ asked value, mid asked value → (f value).Heeds stopped' ends asked) :
    (p >>= f).Heeds stopped' ends asked := by
  show (p.bind f).Heeds stopped' ends asked
  induction hp with
  | done hend => exact hf _ _ hend
  | check htrue hstopped _ ih =>
    obtain ⟨result, hresult, hstopped'⟩ := hstop _ hstopped
    exact .check (by rw [htrue]; exact hresult) hstopped' ih
  | ask _ ih => exact .ask ih

variable {stopped : α → Prop} {ends : Bool → α → Prop} {p : Procedure known α}

/-- What goes on after a query goes on with a check. -/
theorem eq_done_or_check (hp : p.Heeds stopped ends true) :
    (∃ value, p = .done value) ∨
      ∃ next value, p = .ask .interrupted next ∧ next true = .done value ∧ stopped value := by
  cases hp with
  | done _ => exact Or.inl ⟨_, rfl⟩
  | check htrue hstopped _ => exact Or.inr ⟨_, _, rfl, htrue, hstopped⟩

/-- A run that is not cancelled ends as its log shows. -/
theorem run_none {asked : Bool} (hp : p.Heeds stopped ends asked) (x : Accessor known γ)
    (reporter : Reporter) {s : Accessor.State known γ} (hs : s.build.interrupted = false)
    (ha : s.asked = asked) :
    ends (p.run (x.world reporter none) s).2.asked (p.run (x.world reporter none) s).1 := by
  induction hp generalizing s with
  | done hend =>
    subst ha
    exact hend
  | check _ _ _ ih =>
    rw [run_ask, Accessor.world_answer, Accessor.State.cancelAt_none, Accessor.answer_interrupted, hs]
    exact ih hs (x.asked_answer reporter .interrupted s)
  | ask _ ih =>
    rw [run_ask, Accessor.world_answer, Accessor.State.cancelAt_none]
    exact ih _ ((x.build_interrupted_answer ..).trans hs) (x.asked_answer ..)

/-- **A cancellation during a query.** If the query is the last step of the run that is not cancelled,
then the cancellation makes no difference; otherwise it ends the run with a `stopped` value. -/
theorem run_of_interrupted {asked : Bool} (hp : p.Heeds stopped ends asked) (x : Accessor known γ)
    (reporter : Reporter) {n : Nat} {s : Accessor.State known γ} (hs : s.build.interrupted = false)
    (hn : s.queries < n)
    (hset : (p.run (x.world reporter (some n)) s).2.build.interrupted = true) :
    ((p.run (x.world reporter none) s).2.EndsWithQuery n →
      (p.run (x.world reporter (some n)) s).1 = (p.run (x.world reporter none) s).1) ∧
    (¬(p.run (x.world reporter none) s).2.EndsWithQuery n →
      stopped (p.run (x.world reporter (some n)) s).1) := by
  induction hp generalizing s with
  | done _ => exact absurd hset (by rw [run_done, hs]; exact nofun)
  | check _ _ _ ih =>
    have hcalm : ¬(x.answer reporter .interrupted s).2.EndsWithQuery n := fun h =>
      Bool.noConfusion ((x.asked_answer reporter .interrupted s).symm.trans h.2)
    simp only [run_ask, Accessor.world_answer, Accessor.State.cancelAt_none,
      Accessor.State.cancelAt_of_not hcalm] at hset ⊢
    rw [Accessor.answer_interrupted, hs] at hset ⊢
    have hsame := x.queries_answer reporter .interrupted s
    exact ih hs (Nat.lt_of_le_of_lt (Nat.le_of_eq hsame) hn) hset
  | @ask step next hnext ih =>
    have hqueries := x.queries_answer reporter step s
    have hasked := x.asked_answer reporter step s
    simp only [run_ask, Accessor.world_answer, Accessor.State.cancelAt_none] at hset ⊢
    by_cases hmoment : (x.answer reporter step s).2.EndsWithQuery n
    case neg =>
      rw [Accessor.State.cancelAt_of_not hmoment] at hset ⊢
      refine ih _ ((x.build_interrupted_answer ..).trans hs) ?_ hset
      rw [hqueries]
      cases hasks : step.asksGraph with
      | false => exact hn
      | true =>
        rw [hasks, Bool.toNat_true] at hqueries
        exact Nat.lt_of_le_of_ne hn fun he => hmoment ⟨hqueries.trans he, hasked.trans hasks⟩
    -- the build is cancelled during this query
    case pos =>
      have hheeds := hnext (x.answer reporter step s).1
      rw [← hasked, hmoment.2] at hheeds
      obtain ⟨value, hdone⟩ | ⟨next', value, hcheck, htrue, hstopped⟩ := hheeds.eq_done_or_check
      · rw [hdone]
        exact ⟨fun _ => rfl, fun h => absurd hmoment h⟩
      · rw [hcheck]
        have hmissed := x.not_endsWithQuery_of_check reporter next' (x.answer reporter step s).2
        rw [hmoment.1] at hmissed
        refine ⟨fun h => absurd h hmissed, fun _ => ?_⟩
        rw [run_ask, Accessor.world_answer, Accessor.answer_interrupted,
          Accessor.State.interrupted_cancelAt hmoment, htrue]
        exact hstopped

end Procedure.Heeds

/-! ### Planning checks for cancellation -/

/-- The computation was ended by a cancellation. -/
def Stop.Interrupted (stop : Stop) : Prop := stop = .failure .interrupted

/-- The computation `Procedure.Heeds` cancellations, and ends early with a `stopped` reason where it
finds one. Where it ends with a result, `post` holds of that and of whether the step before was a
query. -/
def Heedful (stopped : ε → Prop) (asked : Bool) (x : ExceptT ε (Procedure known) α)
    (post : Bool → α → Prop) : Prop :=
  x.run.Heeds (fun | .ok _ => False | .error e => stopped e)
    (fun asked => fun | .ok value => post asked value | .error _ => True) asked

namespace Heedful

variable {stopped : ε → Prop} {stopped' : Stop → Prop} {asked : Bool}

theorem pure {post : Bool → α → Prop} {value : α} (h : post asked value) :
    Heedful stopped asked (Pure.pure value : ExceptT ε (Procedure known) α) post := .done h

theorem mono {x : ExceptT ε (Procedure known) α} {post post' : Bool → α → Prop}
    (hx : Heedful stopped asked x post) (h : ∀ asked value, post asked value → post' asked value) :
    Heedful stopped asked x post' := by
  refine Procedure.Heeds.mono hx fun asked result hr => ?_
  cases result with
  | ok value => exact h asked value hr
  | error e => trivial

theorem bind {x : ExceptT ε (Procedure known) α} {f : α → ExceptT ε (Procedure known) β}
    {mid : Bool → α → Prop} {post : Bool → β → Prop} (hx : Heedful stopped asked x mid)
    (hf : ∀ asked value, mid asked value → Heedful stopped asked (f value) post) :
    Heedful stopped asked (x >>= f) post := by
  unfold Heedful at hx ⊢
  rw [ExceptT.run_bind]
  refine hx.bind (fun result hr => ?_) fun asked result hr => ?_
  · cases result with
    | ok value => exact hr.elim
    | error e => exact ⟨.error e, rfl, hr⟩
  · cases result with
    | ok value => exact hf asked value hr
    | error e => exact .done trivial

/-- One step with a value, after a check unless none is needed. -/
theorem step (s : Step known) :
    Heedful Stop.Interrupted false (Attempt.step s) fun asked _ => asked = s.asksGraph :=
  .ask fun _ => .done rfl

theorem fail (failure : Failure) {post : Bool → α → Prop} :
    Heedful stopped' asked (Attempt.fail failure : Attempt known α) post := .done trivial

theorem ofAnswer (answer : Except Failure α) :
    Heedful stopped' asked (Attempt.ofAnswer answer : Attempt known α) fun a _ => a = asked := by
  cases answer with
  | ok value => exact .pure rfl
  | error failure => exact .fail failure

theorem checkInterrupt :
    Heedful Stop.Interrupted asked (Attempt.checkInterrupt : Attempt known Unit)
      fun asked _ => asked = false :=
  .check rfl rfl (.done rfl)

theorem discover (artifact : Artifact) :
    Heedful Stop.Interrupted false (Attempt.discover artifact : Attempt known (Option Producers))
      fun asked _ => asked = true := by
  unfold Attempt.discover
  refine .bind (.step _) fun asked answer ha => ?_
  obtain rfl : asked = true := ha
  exact .ofAnswer answer

theorem lookup (key : ActionKey) :
    Heedful Stop.Interrupted false (Attempt.lookup key : Attempt known { a : Action // a ∈ known })
      fun asked _ => asked = true := by
  unfold Attempt.lookup
  refine .bind (.step _) fun asked answer ha => ?_
  obtain rfl : asked = true := ha
  exact .ofAnswer answer

theorem report (message : String) :
    Heedful Stop.Interrupted false (Attempt.report message : Attempt known Unit)
      fun asked _ => asked = false := by
  unfold Attempt.report
  refine .bind (.step _) fun asked answer ha => ?_
  obtain rfl : asked = false := ha
  cases answer with
  | none => exact .pure rfl
  | some text => exact .done trivial

/-- To end early for another reason makes no difference, if that tells of a cancellation as well. -/
theorem rethrow {stopped : ε → Prop} {stopped' : δ → Prop} {x : ExceptT ε (Procedure known) α}
    {f : Except ε α → Procedure known (Except δ α)} {post : Bool → α → Prop}
    (hx : Heedful stopped asked x post) (g : ε → δ) (hok : ∀ value, f (.ok value) = .done (.ok value))
    (herror : ∀ e, f (.error e) = .done (.error (g e))) (hstop : ∀ e, stopped e → stopped' (g e)) :
    Heedful stopped' asked (ExceptT.mk (x.run >>= f)) post := by
  refine Procedure.Heeds.bind hx (fun result hr => ?_) fun asked result hr => ?_
  · cases result with
    | ok value => exact hr.elim
    | error e => exact ⟨.error (g e), herror e, hstop e hr⟩
  · cases result with
    | ok value =>
      rw [hok]
      exact .done hr
    | error e =>
      rw [herror]
      exact .done trivial

theorem within {x : Attempt known α} {post : Bool → α → Prop} (b : Builder)
    (hx : Heedful Stop.Interrupted asked x post) :
    Heedful (fun e => e.1.Interrupted) asked (Walk.within b x) post :=
  hx.rethrow (·, b) (fun _ => rfl) (fun _ => rfl) fun _ h => h

theorem adapt {x : Walk known α} {post : Bool → α → Prop}
    (hx : Heedful (fun e => e.1.Interrupted) asked x post) :
    Heedful Stop.Interrupted asked (x.adapt Prod.fst) post :=
  hx.rethrow Prod.fst (fun _ => rfl) (fun _ => rfl) fun _ h => h

end Heedful

/-- The action passes some inputs on, so a walk goes on to these. -/
def Action.passesOn (a : Action) : Bool := a.propagates && !a.derivedInputs.isEmpty

namespace Walk

open Builder

theorem heedful_lookupAll (keys : List ActionKey) : Heedful Stop.Interrupted true
    (lookupAll keys : Attempt known (List { a : Action // a ∈ known })) fun asked _ => asked = true := by
  induction keys with
  | nil => exact .pure rfl
  | cons key keys ih =>
    unfold lookupAll
    refine .bind .checkInterrupt fun asked _ ha => ?_
    obtain rfl := ha
    refine .bind (.lookup key) fun asked action ha => ?_
    obtain rfl := ha
    exact .bind ih fun asked actions ha => .pure ha

/-- The search for producers begins with a check and ends with a query. -/
theorem heedful_producersOf (asked : Bool) (artifact : Artifact) : Heedful Stop.Interrupted asked
    (producersOf artifact : Attempt known (Option (List { a : Action // a ∈ known })))
    fun asked _ => asked = true := by
  unfold producersOf
  refine .bind .checkInterrupt fun asked _ ha => ?_
  obtain rfl := ha
  refine .bind (.discover artifact) fun asked found ha => ?_
  obtain rfl := ha
  cases found with
  | none => exact .pure rfl
  | some producers => exact .bind (heedful_lookupAll _) fun asked actions ha => .pure ha

/-- What the last entry of a list decides, its first entry decides for the rest. -/
theorem elim_getLast?_cons (a : α) (l : List α) (b : β) (f : α → β) :
    (a :: l).getLast?.elim b f = l.getLast?.elim (f a) f := by
  rw [List.getLast?_cons]
  cases l.getLast? <;> rfl

theorem extends_noteAll (b : Builder) (actions : List { a : Action // a ∈ known }) :
    b.Extends (noteAll b actions).builder ((noteAll b actions).fresh.map Subtype.val) := by
  induction actions generalizing b with
  | nil => exact .refl b
  | cons action actions ih =>
    unfold noteAll
    split
    case isTrue hm => exact (extends_note (Builder.isNew_iff.1 hm)).trans (ih _)
    case isFalse => exact ih b

theorem heedful_spread (asked : Bool) (b : Builder) (artifact : Artifact) :
    Heedful (fun e => e.1.Interrupted) asked (spread b artifact : Walk known (Spread known b))
      fun asked s => asked = true ∧ b.Extends s.builder (s.fresh.map Subtype.val) := by
  unfold spread
  refine .bind (.within _ (heedful_producersOf asked artifact)) fun asked found ha => ?_
  have hmark := b.extends_mark artifact.node
  cases found with
  | none => exact .pure ⟨ha, hmark⟩
  | some actions => exact .pure ⟨ha, hmark.trans (extends_noteAll _ actions)⟩

theorem heedful_spreadAll (asked : Bool) (b : Builder) (artifacts : List Artifact) :
    Heedful (fun e => e.1.Interrupted) asked (spreadAll b artifacts : Walk known (Spread known b))
      fun asked' s => asked' = (asked || !artifacts.isEmpty) ∧
        b.Extends s.builder (s.fresh.map Subtype.val) := by
  induction artifacts generalizing asked b with
  | nil => exact .pure ⟨(Bool.or_false asked).symm, .refl b⟩
  | cons artifact artifacts ih =>
    unfold spreadAll
    refine .bind (heedful_spread asked b artifact) fun asked₁ s hs => ?_
    refine .bind (ih asked₁ s.builder) fun asked₂ t ht => .pure ?_
    obtain ⟨rfl, hs⟩ := hs
    refine ⟨by simpa using ht.1, ?_⟩
    rw [List.map_append]
    exact hs.trans ht.2

/-- The last thing that a walk does for its queue is to ask for producers if the last action of the
queue, or of those that join it, passes inputs on; otherwise it is to check for a cancellation. -/
theorem heedful_visitAll (asked : Bool) (b : Builder) (queue : List { a : Action // a ∈ known }) :
    Heedful (fun e => e.1.Interrupted) asked (visitAll b queue) fun asked' b' =>
      ∃ fresh, b.Extends b' fresh ∧
        asked' = (queue.map Subtype.val ++ fresh).getLast?.elim asked Action.passesOn := by
  induction b, queue using visitAll.induct generalizing asked with
  | case1 b =>
    rw [visitAll]
    exact .pure ⟨[], .refl b, rfl⟩
  | case2 b action queue ihSpread ihMarked =>
    rw [visitAll]
    refine .bind (.within _ .checkInterrupt) fun asked₁ _ ha => ?_
    obtain rfl := ha
    have hmark := b.extends_markAll action.1.wanted
    by_cases hp : action.1.propagates
    case pos =>
      simp only [hp, if_true]
      refine .bind (heedful_spreadAll false _ _) fun asked₂ s hs => ?_
      refine (ihSpread s asked₂).mono fun asked₃ b' hb' => ?_
      obtain ⟨fresh, hgrows, hlast⟩ := hb'
      refine ⟨s.fresh.map Subtype.val ++ fresh, hmark.trans (hs.2.trans hgrows), ?_⟩
      have hpasses : asked₂ = action.1.passesOn := by rw [hs.1, Action.passesOn, hp]; rfl
      rw [List.map_cons, List.cons_append, elim_getLast?_cons, ← hpasses, hlast, List.map_append,
        List.append_assoc]
    case neg =>
      simp only [hp]
      refine (ihMarked false).mono fun asked₃ b' hb' => ?_
      obtain ⟨fresh, hgrows, hlast⟩ := hb'
      refine ⟨fresh, hmark.trans hgrows, ?_⟩
      have hpasses : action.1.passesOn = false := by
        rw [Action.passesOn, Bool.eq_false_iff.2 hp, Bool.false_and]
      rw [List.map_cons, List.cons_append, elim_getLast?_cons, hpasses, hlast]

/-- The last thing that the walk from an artifact does is a query, unless it found actions that are new
to the plan and the last of them passes nothing on. -/
theorem heedful_rewind (asked : Bool) (b : Builder) (artifact : Artifact) :
    Heedful (fun e => e.1.Interrupted) asked (rewind b artifact : Walk known Builder) fun asked b' =>
      ∃ fresh, b.Extends b' fresh ∧ asked = fresh.getLast?.elim true Action.passesOn := by
  unfold rewind
  refine .bind (heedful_spread asked b artifact) fun asked₁ s hs => ?_
  obtain ⟨rfl, hs⟩ := hs
  refine (heedful_visitAll true s.builder s.fresh).mono fun asked₂ b' hb' => ?_
  obtain ⟨fresh, hgrows, hlast⟩ := hb'
  exact ⟨s.fresh.map Subtype.val ++ fresh, hs.trans hgrows, hlast⟩

theorem heedful_rewindAll (asked : Bool) (b : Builder) (artifacts : List Artifact) :
    Heedful (fun e => e.1.Interrupted) asked (rewindAll b artifacts : Walk known Builder)
      fun _ _ => True := by
  induction artifacts generalizing asked b with
  | nil => exact .pure trivial
  | cons artifact artifacts ih =>
    unfold rewindAll
    exact .bind (heedful_rewind asked b artifact) fun asked b' _ => ih asked b'

end Walk

namespace Planning

theorem heedful_recordAll (failed : Action) (key : ActionKey) (loss : Loss)
    (lost : List (String × Input)) :
    Heedful Stop.Interrupted false (recordAll failed key loss lost : Attempt known Unit)
      fun asked _ => asked = false := by
  induction lost with
  | nil => exact .pure rfl
  | cons entry lost ih =>
    unfold recordAll
    refine .bind (.step _) fun asked new ha => ?_
    obtain rfl : asked = false := ha
    cases new with
    | true => exact ih
    | false => exact .bind (.report _) fun _ _ _ => .fail _

theorem heedful_responsible (failed : Action) (directDeps : Std.ExtTreeSet Node) (loss : Loss)
    (runfiles : Owners) :
    Heedful Stop.Interrupted false
      (responsible failed directDeps loss runfiles : Attempt known Responsible)
      fun asked _ => asked = false := by
  unfold responsible
  split
  case h_1 => exact .pure rfl
  case h_2 failure _ =>
    split
    · exact .bind (.report _) fun _ _ _ => .fail _
    · exact .fail _

/-- Nothing is asked of the graph before the walk. -/
theorem heedful_planFor (failed : Action) (key : ActionKey) (directDeps : Std.ExtTreeSet Node)
    (loss : Loss) (runfiles : Owners) :
    Heedful Stop.Interrupted false
      (planFor failed key directDeps loss runfiles : Attempt known Plan) fun _ _ => True := by
  unfold planFor
  refine .bind (heedful_recordAll failed key loss _) fun asked _ ha => ?_
  obtain rfl := ha
  refine .bind (heedful_responsible failed directDeps loss runfiles) fun asked r ha => ?_
  obtain rfl := ha
  simp only
  split
  · exact .bind (.fail _) fun _ _ (h : False) => h.elim
  · exact .bind (.adapt (Walk.heedful_rewindAll false _ _)) fun _ _ _ => .pure trivial

end Planning

/-! ### Cancellations that are missed -/

namespace Accessor

/-- Compute a plan, while the build is cancelled during query number `moment`. -/
def plan (x : Accessor known γ) (reporter : Reporter) (moment : Option Nat) (failed : Action)
    (key : ActionKey) (directDeps : Std.ExtTreeSet Node) (loss : Loss) (runfiles : Owners) (b : Build)
    (graph : γ) : Except Stop Plan × State known γ :=
  exec (x.world reporter moment) (planFor failed key directDeps loss runfiles) { build := b, graph }

/-- When the walk from one artifact is not cancelled, its last step is a query, unless it found actions
that are new to the plan and the last of them passes nothing on. -/
theorem asked_rewind (x : Accessor known γ) (reporter : Reporter) (b b' : Builder) (artifact : Artifact)
    {s : State known γ} (hs : s.build.interrupted = false)
    (h : (exec (x.world reporter none) (Walk.rewind b artifact) s).1 = .ok b') :
    ∃ fresh, b.Extends b' fresh ∧ (exec (x.world reporter none) (Walk.rewind b artifact) s).2.asked =
      fresh.getLast?.elim true Action.passesOn := by
  have hend := (Walk.heedful_rewind s.asked b artifact).run_none x reporter hs rfl
  unfold exec at h ⊢
  rw [h] at hend
  exact hend

/-- **A cancellation during a query is missed only where nothing comes after it.** Let the build be
cancelled during the query number `n` that planning makes. If that query is the last step that
planning would take without the cancellation, then it ends as it would; otherwise it ends with the
news that it was interrupted, and in particular with no plan. -/
theorem plan_of_interrupted (x : Accessor known γ) (reporter : Reporter) {n : Nat} (hn : 0 < n)
    (failed : Action) (key : ActionKey) (directDeps : Std.ExtTreeSet Node) (loss : Loss)
    (runfiles : Owners) (b : Build) (graph : γ) (hb : b.interrupted = false)
    (hset : (x.plan reporter (some n) failed key directDeps loss runfiles b
      graph).2.build.interrupted = true) :
    ((x.plan reporter none failed key directDeps loss runfiles b graph).2.EndsWithQuery n →
      (x.plan reporter (some n) failed key directDeps loss runfiles b graph).1 =
        (x.plan reporter none failed key directDeps loss runfiles b graph).1) ∧
    (¬(x.plan reporter none failed key directDeps loss runfiles b graph).2.EndsWithQuery n →
      (x.plan reporter (some n) failed key directDeps loss runfiles b graph).1 =
        .error (.failure .interrupted)) := by
  obtain ⟨hmissed, hnoticed⟩ := (heedful_planFor failed key directDeps loss
    runfiles).run_of_interrupted x reporter (s := { build := b, graph }) hb hn hset
  refine ⟨hmissed, fun hlast => ?_⟩
  have hstopped := hnoticed hlast
  show (Procedure.run _ _ _).1 = _
  generalize (Procedure.run _ _ _).1 = result at hstopped ⊢
  cases result with
  | ok found => exact hstopped.elim
  | error stop => exact congrArg Except.error hstopped

/-- A graph in which `//p#0` makes `out/a`, and something else that is not done makes the rest. -/
def halfDone : Accessor [{ key := ⟨"//p", 0⟩ }] Unit where
  discover artifact _ := (.ok (if artifact.path = "out/a" then some (.single ⟨"//p", 0⟩) else none), ())
  lookup key _ := (if key = ⟨"//p", 0⟩ then .ok ⟨_, List.mem_singleton_self _⟩
    else .error (.actionNotFound key), ())

/-- Plan for an action that lost `out/a` and `out/b` in that graph. -/
def planHalfDone (moment : Option Nat) : Except Stop Plan × State [{ key := ⟨"//p", 0⟩ }] Unit :=
  halfDone.plan .log moment { key := ⟨"//f", 0⟩ } ⟨"//f", 0⟩
    (.ofList [Node.artifact "out/a", .artifact "out/b"])
    (.ofEntries "lost" [("1", .artifact ⟨"out/a", .derived⟩), ("2", .artifact ⟨"out/b", .derived⟩)] ∅)
    ∅ {} ()

/-- **A cancellation that is missed.** The last query is about `out/b`, which is being made again
already. Nothing comes after it, so a plan is returned although the build was cancelled. -/
theorem cancellation_missed : (planHalfDone (some 3)).2.build.interrupted = true ∧
    (planHalfDone (some 3)).2.queries = 3 ∧ ∃ plan, (planHalfDone (some 3)).1 = .ok plan :=
  ⟨by decide +kernel, by decide +kernel, exists_eq_ok (by decide +kernel)⟩

/-- The query before it is noticed. -/
theorem plan_of_interrupted_halfDone : 0 < 2 ∧ ({} : Build).interrupted = false ∧
    (planHalfDone (some 2)).2.build.interrupted = true ∧
    ¬(planHalfDone none).2.EndsWithQuery 2 ∧
    (planHalfDone (some 2)).1 = .error (.failure .interrupted) := by
  have hset : (planHalfDone (some 2)).2.build.interrupted = true := by decide +kernel
  have hlast : ¬(planHalfDone none).2.EndsWithQuery 2 := by
    rintro ⟨hqueries, -⟩
    exact absurd hqueries (by decide +kernel)
  have hfirst := plan_of_interrupted halfDone .log (n := 2) (by decide) _ _ _ _ _ {} () rfl hset
  exact ⟨by decide, rfl, hset, hlast, hfirst.2 hlast⟩

end Accessor

end Rewinding
