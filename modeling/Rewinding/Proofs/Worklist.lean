import Mathlib.Algebra.GroupWithZero.Nat
import Mathlib.Algebra.Order.BigOperators.Group.List
import Mathlib.Algebra.Order.Group.Nat
import Mathlib.Data.List.Nodup
import Rewinding.Proofs.Calls
import Rewinding.Proofs.Trace

/-!
# The queue of a walk runs empty

While the queue of a walk is consumed, it grows, and a walk asks again what makes an artifact that it has
met before. Yet it ends on every graph with finitely many actions, be its actions in a circle and its
answers different each time. An action joins the queue when it is noted, and is noted once for each plan;
so what falls with each turn is the number of actions that can still be noted, together with the length of
the queue.

* `Walk.visit` is one turn, and `Course` says turn by turn how walks proceed that extend one plan.
  `exists_course` says that there is such a course, which is to say that the queue runs empty each time.
* `Costs` bounds how often a part of a walk asks what an artifact depends on. A turn does so at most once
  for each derived input of its action (`costs_visit`), and `Course.bounded` adds that up.
* `Builder.Grows` is how the parts of a walk change the plan, by calls only; so do whole walks
  (`grows_rewindAll`).
-/

namespace Rewinding

open Procedure Builder

variable {known : List Action} {α β ε σ : Type}

/-! ### Grouping -/

namespace Procedure

theorem bind_bind {γ : Type} (p : Procedure known α) (f : α → Procedure known β)
    (g : β → Procedure known γ) : p >>= f >>= g = p >>= fun value => f value >>= g := by
  show (p.bind f).bind g = p.bind fun value => (f value).bind g
  induction p with
  | done value => rfl
  | ask step next ih => exact congrArg (ask step) (funext ih)

theorem bindT_bindT {γ : Type} (x : ExceptT ε (Procedure known) α) (f : α → ExceptT ε (Procedure known) β)
    (g : β → ExceptT ε (Procedure known) γ) : x >>= f >>= g = x >>= fun value => f value >>= g := by
  refine ExceptT.ext ?_
  simp only [ExceptT.run_bind]
  rw [bind_bind]
  congr 1
  funext result
  cases result <;> rfl

end Procedure

/-! ### Plans that grow by calls -/

namespace Builder

/-- `b'` comes from `b` by calls that accept the actions `fresh`. -/
def Grows (b b' : Builder) (fresh : List Action) : Prop :=
  ∃ calls, b' = b.callAll calls ∧ fresh = b.accepted calls

theorem Grows.refl (b : Builder) : b.Grows b [] := ⟨[], rfl, rfl⟩

theorem Grows.trans {b b' b'' : Builder} {fresh fresh' : List Action} (h : b.Grows b' fresh)
    (h' : b'.Grows b'' fresh') : b.Grows b'' (fresh ++ fresh') := by
  obtain ⟨calls, rfl, rfl⟩ := h
  obtain ⟨later, rfl, rfl⟩ := h'
  exact ⟨calls ++ later, (callAll_append ..).symm, (accepted_append ..).symm⟩

theorem Grows.exists_trans {b b' b'' : Builder} {fresh : List Action} (h : b.Grows b' fresh)
    (h' : ∃ fresh', b'.Grows b'' fresh') : ∃ fresh'', b.Grows b'' fresh'' := by
  obtain ⟨_, h'⟩ := h'
  exact ⟨_, h.trans h'⟩

theorem grows_mark (b : Builder) (node : Node) : b.Grows (b.mark node) [] := ⟨[.mark node], rfl, rfl⟩

theorem grows_markAll (b : Builder) (nodes : List Node) : b.Grows (b.markAll nodes) [] :=
  ⟨[.markAll nodes], rfl, rfl⟩

theorem grows_noteAll (b : Builder) (actions : List { a : Action // a ∈ known }) :
    b.Grows (Walk.noteAll b actions).builder ((Walk.noteAll b actions).fresh.map Subtype.val) :=
  ⟨_, (Walk.noteAll_eq b actions).1, (Walk.noteAll_eq b actions).2⟩

end Builder

/-! ### How often a graph is asked -/

/-- Whether it was asked what an artifact depends on. -/
def Answered.isDiscovery : Answered known → Bool
  | ⟨.discover _, _⟩ => true
  | _ => false

/-- How often a trace asks what an artifact depends on. -/
def discoveries (events : List (Answered known)) : Nat := events.countP Answered.isDiscovery

theorem discoveries_append (events later : List (Answered known)) :
    discoveries (events ++ later) = discoveries events + discoveries later := List.countP_append

/-- Whatever it is answered, the computation asks at most `n` times what an artifact depends on, and ends
with a result that satisfies `post` or early for a reason that satisfies `stop`. -/
def Costs (n : Nat) (x : ExceptT ε (Procedure known) α) (post : α → Prop) (stop : ε → Prop) : Prop :=
  ∀ past, Recounts (fun _ => True) past x (fun later value => discoveries later ≤ discoveries past + n ∧ post value)
    fun later e => discoveries later ≤ discoveries past + n ∧ stop e

namespace Costs

variable {m n : Nat} {post : α → Prop} {stop : ε → Prop}

theorem pure {value : α} (h : post value) :
    Costs n (Pure.pure value : ExceptT ε (Procedure known) α) post stop :=
  fun _ => .pure ⟨Nat.le_add_right .., h⟩

theorem bind {k : Nat} {x : ExceptT ε (Procedure known) α} {f : α → ExceptT ε (Procedure known) β}
    {mid : α → Prop} {post : β → Prop} (hk : m + n = k) (hx : Costs m x mid stop)
    (hf : ∀ value, mid value → Costs n (f value) post stop) : Costs k (x >>= f) post stop := by
  intro past
  refine .bind ((hx past).mono (fun _ _ _ h => h) fun _ _ _ h => ⟨by omega, h.2⟩) fun later value _ h => ?_
  refine (hf value h.2 later).mono (fun _ _ _ h' => ⟨?_, h'.2⟩) fun _ _ _ h' => ⟨?_, h'.2⟩
  · omega
  · omega

theorem mono {x : ExceptT ε (Procedure known) α} {post' : α → Prop} {stop' : ε → Prop}
    (hx : Costs n x post stop) (hp : ∀ value, post value → post' value) (he : ∀ e, stop e → stop' e) :
    Costs n x post' stop' :=
  fun past => (hx past).mono (fun _ _ _ h => ⟨h.1, hp _ h.2⟩) fun _ _ _ h => ⟨h.1, he _ h.2⟩

theorem within {x : Attempt known α} {stop : Stop × Builder → Prop} (b : Builder)
    (hx : Costs n x post fun e => stop (e, b)) : Costs n (Walk.within b x) post stop :=
  fun past => .within b (hx past)

/-- A step that asks something else. -/
theorem discoveries_concat {past : List (Answered known)} {e : Answered known} (he : e.isDiscovery = false) :
    discoveries (past ++ [e]) ≤ discoveries past + 0 := by
  rw [discoveries_append]
  simp [discoveries, he]

theorem checkInterrupt {stop : Stop → Prop} (h : stop (.failure .interrupted)) :
    Costs 0 (Attempt.checkInterrupt : Attempt known Unit) (fun _ => True) stop :=
  fun _ => .checkInterrupt ⟨discoveries_concat rfl, trivial⟩ ⟨discoveries_concat rfl, h⟩

theorem lookup (k : ActionKey) :
    Costs 0 (Attempt.lookup k : Attempt known _) (fun _ => True) fun _ => True :=
  fun _ => .lookup k (fun _ _ => ⟨discoveries_concat rfl, trivial⟩) fun _ => ⟨discoveries_concat rfl, trivial⟩

theorem discover (a : Artifact) :
    Costs 1 (Attempt.discover a : Attempt known _) (fun _ => True) fun _ => True :=
  fun _ => .discover a (fun _ => ⟨Nat.le_of_eq (discoveries_append ..), trivial⟩)
    fun _ => ⟨Nat.le_of_eq (discoveries_append ..), trivial⟩

/-- What holds of the computation holds of its run. -/
theorem exec {x : ExceptT ε (Procedure known) α} (hx : Costs n x post stop) (world : World known σ) (s : σ) :
    discoveries (x.run.trace world s) ≤ n ∧
      match (Procedure.exec world x s).1 with
      | .ok value => post value
      | .error e => stop e := by
  have hend : match (Procedure.exec world x s).1 with
      | .ok value => discoveries (x.run.trace world s) ≤ 0 + n ∧ post value
      | .error e => discoveries (x.run.trace world s) ≤ 0 + n ∧ stop e :=
    (hx []).exec (fun _ _ => trivial) s
  rw [Nat.zero_add] at hend
  generalize (Procedure.exec world x s).1 = result at hend ⊢
  cases result with
  | ok value => exact hend
  | error e => exact hend

end Costs

/-! ### One turn -/

namespace Walk

/-- Take an action off the queue: bring along what it wants restarted and, if it passes its inputs on,
spread to these. -/
def visit (b : Builder) (action : { a : Action // a ∈ known }) : Walk known (Spread known b) := do
  within b Attempt.checkInterrupt
  let marked := b.markAll action.1.wanted
  have hm : marked.unmarked known ≤ b.unmarked known := b.unmarked_markAll_le action.1.wanted known
  if action.1.propagates then
    let s ← spreadAll marked action.1.derivedInputs
    return ⟨s.builder, s.fresh, Nat.le_trans s.bound hm⟩
  else return ⟨marked, [], by simpa using hm⟩

/-- What a turn notes joins the end of the queue. -/
theorem visitAll_cons (b : Builder) (action : { a : Action // a ∈ known })
    (queue : List { a : Action // a ∈ known }) :
    visitAll b (action :: queue) =
      visit b action >>= fun s => visitAll s.builder (queue ++ s.fresh) := by
  rw [visitAll, visit, bindT_bindT]
  congr 1
  funext _
  by_cases hp : action.1.propagates
  case pos =>
    simp only [hp, if_true]
    rw [bindT_bindT]
    rfl
  case neg =>
    simp only [hp]
    show _ = visitAll (b.markAll action.1.wanted) (queue ++ [])
    rw [List.append_nil]
    rfl

/-! ### What the parts of a walk cost -/

theorem costs_lookupAll (keys : List ActionKey) :
    Costs 0 (lookupAll keys : Attempt known _) (fun _ => True) fun _ => True := by
  induction keys with
  | nil => exact .pure trivial
  | cons k keys ih =>
    unfold lookupAll
    refine .bind (Nat.zero_add 0) (.checkInterrupt trivial) fun _ _ => ?_
    refine .bind (Nat.zero_add 0) (.lookup k) fun action _ => ?_
    exact .bind (Nat.zero_add 0) ih fun actions _ => .pure trivial

theorem costs_producersOf (a : Artifact) :
    Costs 1 (producersOf a : Attempt known _) (fun _ => True) fun _ => True := by
  unfold producersOf
  refine .bind (Nat.zero_add 1) (.checkInterrupt trivial) fun _ _ => ?_
  refine .bind (Nat.add_zero 1) (.discover a) fun found _ => ?_
  cases found with
  | none => exact .pure trivial
  | some producers => exact .bind (Nat.zero_add 0) (costs_lookupAll _) fun _ _ => .pure trivial

theorem costs_spread (b : Builder) (a : Artifact) :
    Costs 1 (spread b a : Walk known _) (fun s => b.Grows s.builder (s.fresh.map Subtype.val))
      fun e => ∃ fresh, b.Grows e.2 fresh := by
  have hmark := b.grows_mark a.node
  have hproducers : Costs 1 (producersOf a : Attempt known _) (fun _ => True)
      fun _ => ∃ fresh, b.Grows (b.mark a.node) fresh :=
    (costs_producersOf a).mono (fun _ h => h) fun _ _ => ⟨[], hmark⟩
  unfold spread
  refine .bind (Nat.add_zero 1) (.within _ hproducers) fun found _ => ?_
  cases found with
  | none => exact .pure hmark
  | some actions => exact .pure (hmark.trans (grows_noteAll _ actions))

theorem costs_spreadAll (b : Builder) (artifacts : List Artifact) :
    Costs artifacts.length (spreadAll b artifacts : Walk known _)
      (fun s => b.Grows s.builder (s.fresh.map Subtype.val)) fun e => ∃ fresh, b.Grows e.2 fresh := by
  induction artifacts generalizing b with
  | nil => exact .pure (.refl b)
  | cons a artifacts ih =>
    unfold spreadAll
    refine .bind (Nat.add_comm 1 _) (costs_spread b a) fun s hs => ?_
    refine .bind (Nat.add_zero _) ((ih s.builder).mono (fun _ h => h) fun _ => hs.exists_trans)
      fun t ht => .pure ?_
    rw [List.map_append]
    exact hs.trans ht

/-- A turn asks at most once for each derived input of the action. -/
theorem costs_visit (b : Builder) (action : { a : Action // a ∈ known }) :
    Costs action.1.derivedInputs.length (visit b action)
      (fun s => b.Grows s.builder (s.fresh.map Subtype.val)) fun e => ∃ fresh, b.Grows e.2 fresh := by
  have hmark := b.grows_markAll action.1.wanted
  unfold visit
  refine .bind (Nat.zero_add _) (.within b (.checkInterrupt ⟨[], .refl b⟩)) fun _ _ => ?_
  by_cases hp : action.1.propagates
  case pos =>
    simp only [hp, if_true]
    exact .bind (Nat.add_zero _) ((costs_spreadAll _ _).mono (fun _ h => h) fun _ => hmark.exists_trans)
      fun s hs => .pure (hmark.trans hs)
  case neg =>
    simp only [hp]
    exact .pure hmark

/-- A walk makes calls and nothing else, whether or not it comes to its end. -/
theorem grows_visitAll (b : Builder) (queue : List { a : Action // a ∈ known }) (past : List (Answered known)) :
    Recounts (fun _ => True) past (visitAll b queue) (fun _ b' => ∃ fresh, b.Grows b' fresh)
      fun _ e => ∃ fresh, b.Grows e.2 fresh := by
  induction hmeasure : b.unmarked known + queue.length using Nat.strongRecOn generalizing b queue past with
  | ind measure ih =>
    cases queue with
    | nil =>
      rw [visitAll]
      exact .pure ⟨[], .refl b⟩
    | cons action queue =>
      rw [visitAll_cons]
      refine .bind ((costs_visit b action past).mono (fun _ _ _ h => h.2) fun _ _ _ h => h.2)
        fun later spread _ hs => ?_
      have hbound := spread.bound
      have hless : spread.builder.unmarked known + (queue ++ spread.fresh).length < measure := by
        rw [List.length_append, ← hmeasure, List.length_cons]
        omega
      exact (ih _ hless spread.builder (queue ++ spread.fresh) later rfl).mono
        (fun _ _ _ => hs.exists_trans) fun _ _ _ => hs.exists_trans

theorem grows_rewindAll (b : Builder) (artifacts : List Artifact) (past : List (Answered known)) :
    Recounts (fun _ => True) past (rewindAll b artifacts : Walk known Builder)
      (fun _ b' => ∃ fresh, b.Grows b' fresh) fun _ e => ∃ fresh, b.Grows e.2 fresh := by
  induction artifacts generalizing b past with
  | nil => exact .pure ⟨[], .refl b⟩
  | cons a artifacts ih =>
    unfold rewindAll rewind
    rw [bindT_bindT]
    refine .bind ((costs_spread b a past).mono (fun _ _ _ h => h.2) fun _ _ _ h => h.2)
      fun later spread _ hs => ?_
    refine .bind ((grows_visitAll spread.builder spread.fresh later).mono (fun _ _ _ => hs.exists_trans)
      fun _ _ _ => hs.exists_trans) fun later' b' _ hb => ?_
    obtain ⟨fresh, hb⟩ := hb
    exact (ih b' later').mono (fun _ _ _ => hb.exists_trans) fun _ _ _ => hb.exists_trans

end Walk

/-! ### Turn by turn -/

/-- The plan as far as a walk has come with it. -/
def Walk.left : Except (Stop × Builder) Builder → Builder
  | .ok b => b
  | .error (_, b) => b

/-- Rewind artifacts one after another into one plan, each whether or not the walk from the one before has
come to its end. -/
def Walk.rewindEach (b : Builder) : List Artifact → Procedure known Builder
  | [] => pure b
  | artifact :: artifacts => do
    let result ← (rewind b artifact).run
    rewindEach (left result) artifacts

/-- How walks proceed that extend one plan. With `ahead` still to be rewound, from the plan `b` and the
queue of the current walk, they take the actions `taken` off their queues, have the trace `events`, and
leave the plan `b'`. A walk that ends early leaves its queue. -/
inductive Course (world : World known σ) : List Artifact → Builder → List { a : Action // a ∈ known } → σ →
    List Action → List (Answered known) → Builder → Prop where
  | ended {b : Builder} {s : σ} : Course world [] b [] s [] [] b
  | begun {a : Artifact} {ahead : List Artifact} {b b' : Builder} {s t : σ} {spread : Spread known b}
      {taken : List Action} {events : List (Answered known)} :
      exec world (Walk.spread b a) s = (.ok spread, t) →
      Course world ahead spread.builder spread.fresh t taken events b' →
      Course world (a :: ahead) b [] s taken ((Walk.spread b a).run.trace world s ++ events) b'
  | refused {a : Artifact} {ahead : List Artifact} {b b₁ b' : Builder} {s t : σ} {stop : Stop}
      {taken : List Action} {events : List (Answered known)} :
      exec world (Walk.spread b a : Walk known _) s = (.error (stop, b₁), t) →
      Course world ahead b₁ [] t taken events b' →
      Course world (a :: ahead) b [] s taken
        ((Walk.spread b a : Walk known _).run.trace world s ++ events) b'
  | turn {action : { a : Action // a ∈ known }} {queue : List { a : Action // a ∈ known }}
      {ahead : List Artifact} {b b' : Builder} {s t : σ} {spread : Spread known b} {taken : List Action}
      {events : List (Answered known)} : exec world (Walk.visit b action) s = (.ok spread, t) →
      Course world ahead spread.builder (queue ++ spread.fresh) t taken events b' →
      Course world ahead b (action :: queue) s (action.1 :: taken)
        ((Walk.visit b action).run.trace world s ++ events) b'
  | stopped {action : { a : Action // a ∈ known }} {queue : List { a : Action // a ∈ known }}
      {ahead : List Artifact} {b b₁ b' : Builder} {s t : σ} {stop : Stop} {taken : List Action}
      {events : List (Answered known)} : exec world (Walk.visit b action) s = (.error (stop, b₁), t) →
      Course world ahead b₁ [] t taken events b' →
      Course world ahead b (action :: queue) s (action.1 :: taken)
        ((Walk.visit b action).run.trace world s ++ events) b'

namespace Course

variable {world : World known σ} {ahead : List Artifact} {b b' : Builder}
  {queue : List { a : Action // a ∈ known }} {s : σ} {taken : List Action} {events : List (Answered known)}

/-- **All turns.** What leaves the queue was in it or was noted since, in this order, and the graph was
asked at most once for each artifact ahead and each derived input of what has left the queue. -/
theorem bounded (h : Course world ahead b queue s taken events b') : ∃ fresh, b.Grows b' fresh ∧
    taken.Sublist (queue.map Subtype.val ++ fresh) ∧
    discoveries events ≤ ahead.length + (taken.map fun a => a.derivedInputs.length).sum := by
  induction h with
  | ended => exact ⟨[], .refl _, List.Sublist.refl _, Nat.le_refl _⟩
  | @begun a ahead b b' s t spread taken events hexec _ ih =>
    obtain ⟨hcost, hgrows⟩ := (Walk.costs_spread b a).exec world s
    rw [hexec] at hgrows
    obtain ⟨fresh, hmore, hsub, hcount⟩ := ih
    refine ⟨_, hgrows.trans hmore, hsub, ?_⟩
    rw [discoveries_append, List.length_cons]
    omega
  | @refused a ahead b b₁ b' s t stop taken events hexec _ ih =>
    obtain ⟨hcost, hgrows⟩ := (Walk.costs_spread b a).exec world s
    rw [hexec] at hgrows
    obtain ⟨first, hgrows⟩ := hgrows
    obtain ⟨fresh, hmore, hsub, hcount⟩ := ih
    refine ⟨_, hgrows.trans hmore, hsub.trans (List.sublist_append_right first fresh), ?_⟩
    rw [discoveries_append, List.length_cons]
    omega
  | @turn action queue ahead b b' s t spread taken events hexec _ ih =>
    obtain ⟨hcost, hgrows⟩ := (Walk.costs_visit b action).exec world s
    rw [hexec] at hgrows
    obtain ⟨fresh, hmore, hsub, hcount⟩ := ih
    rw [List.map_append, List.append_assoc] at hsub
    refine ⟨_, hgrows.trans hmore, hsub.cons_cons action.1, ?_⟩
    rw [discoveries_append, List.map_cons, List.sum_cons]
    omega
  -- what is left of the queue is never taken off it
  | @stopped action queue ahead b b₁ b' s t stop taken events hexec _ ih =>
    obtain ⟨hcost, hgrows⟩ := (Walk.costs_visit b action).exec world s
    rw [hexec] at hgrows
    obtain ⟨first, hgrows⟩ := hgrows
    obtain ⟨fresh, hmore, hsub, hcount⟩ := ih
    refine ⟨_, hgrows.trans hmore, List.Sublist.cons_cons action.1 ?_, ?_⟩
    · exact hsub.trans ((List.sublist_append_right first fresh).trans (List.sublist_append_right ..))
    · rw [discoveries_append, List.map_cons, List.sum_cons]
      omega

theorem mem_known (h : Course world ahead b queue s taken events b') : ∀ action ∈ taken, action ∈ known := by
  induction h with
  | ended => exact nofun
  | begun _ _ ih | refused _ _ ih => exact ih
  | @turn action _ _ _ _ _ _ _ _ _ _ _ ih => exact List.forall_mem_cons.2 ⟨action.2, ih⟩
  | @stopped action _ _ _ _ _ _ _ _ _ _ _ _ ih => exact List.forall_mem_cons.2 ⟨action.2, ih⟩

end Course

/-! ### There is such a course -/

/-- What follows is traced where the first part ends with a value. -/
theorem Procedure.trace_bindT (world : World known σ) (x : ExceptT ε (Procedure known) α)
    (f : α → ExceptT ε (Procedure known) β) (s : σ) :
    (x >>= f).run.trace world s = x.run.trace world s ++
      match exec world x s with
      | (.ok value, t) => (f value).run.trace world t
      | (.error _, _) => [] := by
  unfold exec
  rw [ExceptT.run_bind, trace_bind]
  generalize x.run.run world s = result
  obtain ⟨value | e, t⟩ := result <;> rfl

namespace Walk

variable {world : World known σ}

/-- **The queue runs empty.** From there on the walks ahead may proceed. The induction is on the number of
actions that can still be noted together with the length of the queue. -/
theorem exists_course_visitAll {ahead : List Artifact} (b : Builder)
    (queue : List { a : Action // a ∈ known }) (s : σ) {taken : List Action}
    {events : List (Answered known)} {b' : Builder}
    (h : Course world ahead (left (exec world (visitAll b queue) s).1) []
      (exec world (visitAll b queue) s).2 taken events b') :
    ∃ first, Course world ahead b queue s (first ++ taken)
      ((visitAll b queue).run.trace world s ++ events) b' := by
  induction hmeasure : b.unmarked known + queue.length using Nat.strongRecOn generalizing b queue s with
  | ind measure ih =>
    cases queue with
    | nil =>
      rw [visitAll] at h ⊢
      exact ⟨[], h⟩
    | cons action queue =>
      rw [visitAll_cons, exec_bind] at h
      rw [visitAll_cons, trace_bindT, List.append_assoc]
      generalize hexec : exec world (visit b action) s = result at h ⊢
      obtain ⟨⟨stop, b₁⟩ | spread, t⟩ := result
      · exact ⟨[action.1], .stopped hexec h⟩
      · have hbound := spread.bound
        have hless : spread.builder.unmarked known + (queue ++ spread.fresh).length < measure := by
          rw [List.length_append, ← hmeasure, List.length_cons]
          omega
        obtain ⟨first, hcourse⟩ := ih _ hless spread.builder (queue ++ spread.fresh) t h rfl
        exact ⟨action.1 :: first, .turn hexec hcourse⟩

/-- The walks from some artifacts all end. -/
theorem exists_course (b : Builder) (artifacts : List Artifact) (s : σ) :
    ∃ taken, Course world artifacts b [] s taken
      ((rewindEach b artifacts : Procedure known Builder).trace world s)
      ((rewindEach b artifacts : Procedure known Builder).run world s).1 := by
  induction artifacts generalizing b s with
  | nil => exact ⟨[], .ended⟩
  | cons a artifacts ih =>
    obtain ⟨taken, hrest⟩ := ih (left (exec world (rewind b a : Walk known _) s).1)
      (exec world (rewind b a : Walk known _) s).2
    rw [rewindEach, trace_bind, run_bind]
    have hrun : (rewind b a : Walk known _).run.run world s = exec world (rewind b a) s := rfl
    rw [hrun]
    generalize (rewindEach _ artifacts : Procedure known Builder).trace world _ = events at hrest ⊢
    generalize ((rewindEach _ artifacts : Procedure known Builder).run world _).1 = b' at hrest ⊢
    rw [rewind, exec_bind] at hrest
    rw [rewind, trace_bindT, List.append_assoc]
    generalize hexec : exec world (spread b a) s = result at hrest ⊢
    obtain ⟨⟨stop, b₁⟩ | spread, t⟩ := result
    · exact ⟨taken, .refused hexec hrest⟩
    · obtain ⟨first, hcourse⟩ := exists_course_visitAll _ _ _ hrest
      exact ⟨first ++ taken, .begun hexec hcourse⟩

/-- Where the first walk that ends early ends them all, the walks are those up to that one. -/
theorem exists_take_rewindAll (b : Builder) (artifacts : List Artifact) (s : σ) : ∃ n,
    (rewindAll b artifacts : Walk known Builder).run.trace world s =
      (rewindEach b (artifacts.take n) : Procedure known Builder).trace world s ∧
    left (exec world (rewindAll b artifacts : Walk known Builder) s).1 =
      ((rewindEach b (artifacts.take n) : Procedure known Builder).run world s).1 := by
  induction artifacts generalizing b s with
  | nil => exact ⟨0, rfl, rfl⟩
  | cons a artifacts ih =>
    rw [rewindAll, trace_bindT, exec_bind]
    generalize hexec : exec world (rewind b a : Walk known _) s = result
    have hrun : (rewind b a : Walk known _).run.run world s = result := hexec
    obtain ⟨e | b₁, t⟩ := result
    · refine ⟨1, ?_, ?_⟩
      · rw [List.take_succ_cons, List.take_zero, rewindEach, trace_bind, hrun]
        rfl
      · rw [List.take_succ_cons, List.take_zero, rewindEach, run_bind, hrun]
        rfl
    · obtain ⟨n, htrace, hleft⟩ := ih b₁ t
      refine ⟨n + 1, ?_, ?_⟩
      · rw [List.take_succ_cons, rewindEach, trace_bind, hrun]
        exact congrArg _ htrace
      · rw [List.take_succ_cons, rewindEach, run_bind, hrun]
        exact hleft

/-- **Walks end, and ask little.** However a graph with finitely many actions answers, walks from some
artifacts that extend one plan all come to an end. Together they take no action off their queues twice, and
none but what they have noted; and they ask what an artifact depends on at most once for each of the
artifacts and for each derived input of an action that they have noted. To give up after the first walk
that ends early is to rewind fewer artifacts. -/
theorem rewindEach_ends (world : World known σ) (b : Builder) (artifacts : List Artifact) (s : σ) :
    (∃ taken, Course world artifacts b [] s taken
      ((rewindEach b artifacts : Procedure known Builder).trace world s)
      ((rewindEach b artifacts : Procedure known Builder).run world s).1) ∧
    (∀ taken events b', Course world artifacts b [] s taken events b' →
      ∃ fresh, b'.noted = b.noted ++ fresh ∧ (fresh.map Action.key).Nodup ∧ taken.Sublist fresh ∧
        (taken.map Action.key).Nodup ∧ taken.length ≤ known.length ∧
        discoveries events ≤ artifacts.length + (fresh.map fun a => a.derivedInputs.length).sum) ∧
    ∃ n, (rewindAll b artifacts : Walk known Builder).run.trace world s =
        (rewindEach b (artifacts.take n) : Procedure known Builder).trace world s ∧
      left (exec world (rewindAll b artifacts : Walk known Builder) s).1 =
        ((rewindEach b (artifacts.take n) : Procedure known Builder).run world s).1 := by
  refine ⟨exists_course b artifacts s, fun taken events b' h => ?_, exists_take_rewindAll b artifacts s⟩
  obtain ⟨fresh, ⟨calls, rfl, rfl⟩, hsub, hcount⟩ := h.bounded
  have hfresh : ((b.accepted calls).map Action.key).Nodup := nodup_accepted calls
  have htaken : (taken.map Action.key).Nodup := hfresh.sublist (hsub.map Action.key)
  have hcosts : (taken.map fun a => a.derivedInputs.length).sum ≤
      ((b.accepted calls).map fun a => a.derivedInputs.length).sum :=
    (hsub.map _).sum_le_sum fun _ _ => Nat.zero_le _
  refine ⟨_, noted_callAll calls, hfresh, hsub, htaken, ?_, by omega⟩
  exact (List.subperm_of_subset (List.Nodup.of_map Action.key htaken) h.mem_known).length_le

end Walk

end Rewinding
