import Rewinding.Proofs.Planning
import Rewinding.Session

/-!
# How the handling of a loss ends

`Session.Handled` lists every way in which a session can handle the loss of inputs of an action, each
with the build that it leaves, and `handled_handle` says that there are no others. A plan is applied
in one way only, at the very end; `Build.Rewound` says what that makes of the build.
-/

namespace Rewinding

open Procedure Planning

/-! ### Applying a plan -/

/-- What is erased is found no more, and all else is found as before. -/
theorem getElem?_foldl_erase {α β : Type} [Ord α] [Std.TransOrd α] [Std.LawfulEqOrd α]
    [DecidableEq α] {m : Std.ExtTreeMap α β} {keys : List α} {k : α} :
    (keys.foldl Std.ExtTreeMap.erase m)[k]? = if k ∈ keys then none else m[k]? := by
  induction keys generalizing m with
  | nil => simp
  | cons key keys ih =>
    rw [List.foldl_cons, ih, Std.ExtTreeMap.getElem?_erase]
    simp only [Std.LawfulEqCmp.compare_eq_iff_eq]
    by_cases hk : k ∈ keys
    · rw [if_pos hk, if_pos (List.mem_cons_of_mem _ hk)]
    · by_cases he : key = k
      · rw [if_neg hk, if_pos he, if_pos (he ▸ List.mem_cons_self)]
      · have hnot : k ∉ key :: keys := by
          rw [List.mem_cons, not_or]
          exact ⟨fun h => he h.symm, hk⟩
        rw [if_neg hk, if_neg he, if_neg hnot]

theorem mem_foldl_erase {α β : Type} [Ord α] [Std.TransOrd α] [Std.LawfulEqOrd α] [DecidableEq α]
    {m : Std.ExtTreeMap α β} {keys : List α} {k : α} :
    k ∈ keys.foldl Std.ExtTreeMap.erase m ↔ k ∉ keys ∧ k ∈ m := by
  rw [Std.ExtTreeMap.mem_iff_isSome_getElem?, Std.ExtTreeMap.mem_iff_isSome_getElem?,
    getElem?_foldl_erase]
  by_cases hk : k ∈ keys
  · simp [hk]
  · simp [hk]

namespace Evaluation

theorem isDone_invalidate {e : Evaluation} {node n : Node} :
    (e.invalidate node).isDone n = true ↔ n ≠ node ∧ e.isDone n = true := by
  unfold isDone invalidate
  rw [decide_eq_true_eq, decide_eq_true_eq, Std.ExtTreeMap.mem_erase, ne_eq,
    Std.LawfulEqCmp.compare_eq_iff_eq, ne_comm]

theorem foldl_invalidate (e : Evaluation) (nodes : List Node) :
    nodes.foldl invalidate e = { e with done := nodes.foldl Std.ExtTreeMap.erase e.done } := by
  induction nodes generalizing e with
  | nil => rfl
  | cons node nodes ih => exact ih (e.invalidate node)

/-- A restart leaves done what was done and is not restarted. -/
theorem isDone_restart {e : Evaluation} {r : Restart} {n : Node} :
    (e.restart r).2.isDone n = true ↔ n ∉ r.nodes ∧ e.isDone n = true := by
  unfold restart isDone
  rw [foldl_invalidate, decide_eq_true_eq, decide_eq_true_eq]
  exact mem_foldl_erase

end Evaluation

namespace Build

/-- Restart the nodes of a directive. -/
def restart (b : Build) (r : Restart) : Build := { b with evaluation := (b.evaluation.restart r).2 }

/-- Forget the last execution of some actions; how many had one. -/
def evictEach (b : Build) : List ActionKey → Nat × Build
  | [] => (0, b)
  | key :: keys =>
    let (count, rest) := (b.evict key).evictEach keys
    (count + (decide (key ∈ b.cache)).toNat, rest)

theorem evictEach_snd (b : Build) (keys : List ActionKey) :
    (b.evictEach keys).2 = { b with cache := keys.foldl Std.ExtTreeMap.erase b.cache } := by
  induction keys generalizing b with
  | nil => rfl
  | cons key keys ih =>
    unfold evictEach
    rw [ih]
    rfl

/-- An eviction leaves in the cache what was there and is not evicted. -/
theorem mem_cache_evictEach {b : Build} {keys : List ActionKey} {key : ActionKey} :
    key ∈ (b.evictEach keys).2.cache ↔ key ∉ keys ∧ key ∈ b.cache := by
  rw [evictEach_snd]
  exact mem_foldl_erase

end Build

namespace Planning

variable {g : Graph} {reporter : Reporter}

theorem exec_invalidateAll {nodes : List Node} (hd : nodes.Nodup) (b : Build) :
    exec (Build.world g reporter) (invalidateAll nodes) b =
      (.ok (nodes.filter b.evaluation.isDone).length,
        { b with evaluation := nodes.foldl Evaluation.invalidate b.evaluation }) := by
  induction nodes generalizing b with
  | nil => rfl
  | cons node nodes ih =>
    rw [List.nodup_cons] at hd
    obtain ⟨hnot, hd⟩ := hd
    unfold invalidateAll
    rw [exec_bind, exec_step]
    have ha : (Build.world g reporter).answer (.invalidate node) b =
      (b.evaluation.isDone node, b.invalidate node) := rfl
    -- the nodes to come are others, and as done as before
    have hrest : nodes.filter (b.invalidate node).evaluation.isDone =
        nodes.filter b.evaluation.isDone := by
      refine List.filter_congr fun n hn => ?_
      have hne : n ≠ node := fun he => hnot (he ▸ hn)
      rw [Bool.eq_iff_iff]
      show (b.evaluation.invalidate node).isDone n = true ↔ _
      rw [Evaluation.isDone_invalidate]
      exact and_iff_right hne
    rw [ha]
    simp only
    rw [exec_bind, ih hd, hrest]
    cases hdone : b.evaluation.isDone node with
    | true => simp [hdone, Build.invalidate]
    | false => simp [hdone, Build.invalidate]

theorem exec_evictAll (keys : List ActionKey) (b : Build) :
    exec (Build.world g reporter) (evictAll keys) b =
      (.ok (b.evictEach keys).1, (b.evictEach keys).2) := by
  induction keys generalizing b with
  | nil => rfl
  | cons key keys ih =>
    unfold evictAll Build.evictEach
    rw [exec_bind, exec_step]
    have ha : (Build.world g reporter).answer (.evict key) b =
      (decide (key ∈ b.cache), b.evict key) := rfl
    rw [ha]
    simp only
    rw [exec_bind, ih]
    rfl

end Planning

/-! ### The ways in which a handling ends -/

theorem Graph.lookup_eq_ok {g : Graph} {key : ActionKey} {action : { a : Action // a ∈ g.roster }} :
    g.lookup key = .ok action ↔ g.actions[key]? = some action.1 := by
  unfold lookup
  split
  case h_1 a ha =>
    constructor
    · intro h
      rw [ha, ← Except.ok.inj h]
    · intro h
      rw [ha] at h
      exact congrArg Except.ok (Subtype.ext (Option.some.inj h))
  case h_2 ha =>
    rw [ha]
    exact ⟨nofun, nofun⟩

theorem Graph.lookup_eq_error {g : Graph} {key : ActionKey} {failure : Failure} :
    g.lookup key = .error failure ↔ key ∉ g.actions ∧ failure = .actionNotFound key := by
  rw [Std.ExtTreeMap.mem_iff_isSome_getElem?]
  unfold lookup
  split
  case h_1 a ha =>
    exact ⟨nofun, fun h => absurd (ha ▸ rfl) h.1⟩
  case h_2 ha =>
    rw [ha]
    constructor
    · intro h
      exact ⟨nofun, (Except.error.inj h).symm⟩
    · rintro ⟨-, rfl⟩
      rfl

/-- A rewind of `key` on `g` that succeeds, from the build `b` to `b'`: a walk from `lost` has
finished, and what it found is restarted and evicted, and nothing else. -/
structure Build.Rewound (g : Graph) (key : ActionKey) (lost : List Artifact) (builder : Builder)
    (b b' : Build) : Prop where
  finished : Walk.Finished (b.queries g) lost lost builder
  failed : builder.failed = key
  isDone {n : Node} : b'.evaluation.isDone n = true ↔
    n ∉ builder.plan.restart.nodes ∧ b.evaluation.isDone n = true
  cached {k : ActionKey} : k ∈ b'.cache ↔ k ∉ key :: builder.plan.additionalKeys ∧ k ∈ b.cache

namespace Build.Rewound

variable {g : Graph} {key : ActionKey} {lost : List Artifact} {builder : Builder} {b b' : Build}
  (h : Rewound g key lost builder b b')
include h

/-- A rewind completes nothing. -/
theorem isDone_of_isDone {n : Node} (hn : b.evaluation.isDone n = false) :
    b'.evaluation.isDone n = false := by
  rw [← Bool.not_eq_true] at hn ⊢
  rw [h.isDone]
  exact fun hd => hn hd.2

theorem isDone_of_marked {n : Node} (hn : n ∈ builder.marked) : b'.evaluation.isDone n = false := by
  rw [← Bool.not_eq_true, h.isDone]
  exact fun hd => hd.1 (Builder.mem_nodes_plan.2 (Or.inr hn))

end Build.Rewound

/-- What became of a failed action to which `plan` is applied, on the build `b`. -/
def Planning.outcome (plan : Plan) (key : ActionKey) (attempt : UInt32) (b : Build) : Outcome where
  plan
  invalidated := (b.evaluation.restart plan.restart).1
  evicted := ((b.restart plan.restart).evictEach (key :: plan.additionalKeys)).1
  attempt

namespace Session

/-- The ways in which a session handles the loss of inputs of `key`, each with the build that it
leaves. -/
inductive Handled (s : Session) (key : ActionKey) (loss : Loss) :
    Except Stop Outcome → Build → Prop where
  | cancelled : s.build.interrupted → s.Handled key loss (.error (.failure .interrupted)) s.build
  | unknown : s.build.interrupted = false → key ∉ s.graph.actions →
      s.Handled key loss (.error (.failure (.actionNotFound key))) s.build
  | exceeded {failed : Action} : s.build.interrupted = false → s.graph.actions[key]? = some failed →
      s.build.attemptsOf key + 1 > s.maxRewinds →
      s.Handled key loss (.error (.failure (failureOf failed key .limitExceeded loss)))
        (s.build.countAttempt key)
  | unplanned {failed : Action} {stop : Stop} {b : Build} : s.build.interrupted = false →
      s.graph.actions[key]? = some failed → ¬s.build.attemptsOf key + 1 > s.maxRewinds →
      Planned s.graph s.reporter failed key failed.directDeps loss s.graph.runfilesOwners
        (s.build.countAttempt key) (.error stop) b →
      s.Handled key loss (.error stop) b
  | done {failed : Action} {plan : Plan} {b : Build} : s.build.interrupted = false →
      s.graph.actions[key]? = some failed → ¬s.build.attemptsOf key + 1 > s.maxRewinds →
      Planned s.graph s.reporter failed key failed.directDeps loss s.graph.runfilesOwners
        (s.build.countAttempt key) (.ok plan) b →
      s.Handled key loss (.ok (outcome plan key (s.build.attemptsOf key + 1) b))
        ((b.restart plan.restart).evictEach (key :: plan.additionalKeys)).2

theorem handle_eq_exec (s : Session) (key : ActionKey) (loss : Loss) :
    s.handle key loss =
      ((exec (Build.world s.graph s.reporter) (s.handling key loss) s.build).1,
        { s with build := (exec (Build.world s.graph s.reporter) (s.handling key loss) s.build).2 }) :=
  rfl

/-- **A handling ends in one of these ways.** -/
theorem handled_handle (s : Session) (key : ActionKey) (loss : Loss) :
    s.Handled key loss (s.handle key loss).1 (s.handle key loss).2.build := by
  rw [handle_eq_exec]
  unfold handling Planning.handle
  have hcheck : exec (Build.world s.graph s.reporter) Attempt.checkInterrupt s.build =
    (if s.build.interrupted then .error (.failure .interrupted) else .ok (), s.build) :=
    exec_checkInterrupt ..
  by_cases hc : s.build.interrupted
  case pos =>
    rw [if_pos hc] at hcheck
    rw [exec_bind_error _ _ hcheck]
    exact .cancelled hc
  -- nothing is changed before the action is found
  have hc' : s.build.interrupted = false := by simpa using hc
  rw [if_neg hc] at hcheck
  rw [exec_bind_ok _ _ hcheck]
  have hlookup : exec (Build.world s.graph s.reporter) (Attempt.lookup key) s.build =
    ((s.graph.lookup key).mapError .failure, s.build) := exec_lookup ..
  cases hfound : s.graph.lookup key with
  | error failure =>
    obtain ⟨hu, rfl⟩ := Graph.lookup_eq_error.1 hfound
    rw [hfound] at hlookup
    rw [exec_bind_error _ _ hlookup]
    exact .unknown hc' hu
  | ok failed =>
    have hf := Graph.lookup_eq_ok.1 hfound
    rw [hfound] at hlookup
    rw [exec_bind_ok _ _ hlookup]
    -- from here on the attempt counts, however the handling ends
    have hattempt : exec (Build.world s.graph s.reporter) (Attempt.step (.attempt key)) s.build =
      (.ok (s.build.attemptsOf key + 1), s.build.countAttempt key) := exec_step ..
    rw [exec_bind_ok _ _ hattempt]
    by_cases hm : s.build.attemptsOf key + 1 > s.maxRewinds
    case pos =>
      rw [if_pos hm, exec_bind_error _ _ (exec_fail ..)]
      exact .exceeded hc' hf hm
    rw [if_neg hm]
    simp only
    have hplanned := @planned_planFor s.graph s.reporter failed.1 key failed.1.directDeps loss
      s.graph.runfilesOwners (s.build.countAttempt key)
    rw [exec_bind]
    generalize exec (Build.world s.graph s.reporter)
      (Planning.planFor failed.1 key failed.1.directDeps loss s.graph.runfilesOwners)
      (s.build.countAttempt key) = planning at hplanned
    obtain ⟨stop | plan, b⟩ := planning
    · exact .unplanned hc' hf hm hplanned
    simp only
    rw [exec_bind_ok _ _ (exec_invalidateAll (hplanned.nodup_nodes) b)]
    rw [exec_bind_ok _ _ (exec_evictAll _ _)]
    exact .done hc' hf hm hplanned

/-- A handling that fails leaves the nodes alone. -/
theorem evaluation_handle_of_error {s : Session} {key : ActionKey} {loss : Loss} {stop : Stop}
    (h : (s.handle key loss).1 = .error stop) :
    (s.handle key loss).2.build.evaluation = s.build.evaluation := by
  have hend := s.handled_handle key loss
  rw [h] at hend
  generalize (s.handle key loss).2.build = b at hend
  cases hend with
  | cancelled _ | unknown _ _ | exceeded _ _ _ => rfl
  | unplanned _ _ _ hp => exact hp.sameButMemory.evaluation

/-- The direct dependencies of an action that account for a loss, if nothing is wrong with it. -/
def responsible? (s : Session) (key : ActionKey) (loss : Loss) : Option (List Artifact) :=
  s.graph.actions[key]?.bind fun failed =>
    (Ownership.resolve ⟨loss.owners, s.graph.runfilesOwners, failed.directDeps⟩ key
      loss.inputs).toOption.map owners

theorem responsible?_eq_some {s : Session} {key : ActionKey} {loss : Loss} {lost : List Artifact} :
    s.responsible? key loss = some lost ↔ ∃ failed r, s.graph.actions[key]? = some failed ∧
      Ownership.resolve ⟨loss.owners, s.graph.runfilesOwners, failed.directDeps⟩ key loss.inputs =
        .ok r ∧ lost = owners r := by
  unfold responsible?
  rw [Option.bind_eq_some_iff]
  constructor
  · rintro ⟨failed, hf, h⟩
    obtain ⟨r, hr, rfl⟩ := Option.map_eq_some_iff.1 h
    generalize hresolve : Ownership.resolve _ _ _ = result at hr
    cases result with
    | error failure => cases hr
    | ok r' =>
      obtain rfl := Option.some.inj hr
      exact ⟨failed, r', hf, hresolve, rfl⟩
  · rintro ⟨failed, r, hf, hr, rfl⟩
    refine ⟨failed, hf, ?_⟩
    rw [hr]
    rfl

theorem exists_rewound {s : Session} {key : ActionKey} {loss : Loss} {o : Outcome}
    (hk : ∀ k (action : Action), s.graph.actions[k]? = some action → action.key = k)
    (h : (s.handle key loss).1 = .ok o) :
    ∃ lost builder, s.responsible? key loss = some lost ∧ o.plan = builder.plan ∧
      Build.Rewound s.graph key lost builder s.build (s.handle key loss).2.build := by
  have hend := s.handled_handle key loss
  rw [h] at hend
  generalize (s.handle key loss).2.build = b at hend
  cases hend with
  | @done failed plan b hi hf hm hp =>
    have hsame := hp.sameButMemory
    cases hp with
    | @planned r builder _ hr _ hwalk =>
      have hlost : s.responsible? key loss = some (owners r) := by
        rw [hk key failed hf] at hr
        exact responsible?_eq_some.2 ⟨failed, r, hf, hr, rfl⟩
      have hkeyed : (s.build.queries s.graph).Keyed :=
        fun k action hl => hk k action.1 (Graph.lookup_eq_ok.1 hl)
      have hsteady := Build.steady_world s.graph s.reporter
        ((s.build.countAttempt key).recordEach key loss.digests)
      -- what planning remembers does not show in what it asks
      have hqueries : ((s.build.countAttempt key).recordEach key loss.digests).queries s.graph =
          s.build.queries s.graph := by
        unfold Build.queries
        rw [hsame.evaluation, hsame.interrupted]
        rfl
      rw [hqueries] at hsteady
      obtain ⟨-, hfin⟩ := Walk.yields_rewindAll hsteady hkeyed key (owners r) _ rfl
      rw [hwalk] at hfin
      obtain ⟨hfin, hfailed⟩ := hfin
      refine ⟨owners r, builder, hlost, rfl, hfin, hfailed, ?_, ?_⟩
      · intro n
        rw [Build.evictEach_snd]
        show (Evaluation.restart _ _).2.isDone n = true ↔ _
        rw [Evaluation.isDone_restart, hsame.evaluation]
        rfl
      · intro k
        rw [Build.mem_cache_evictEach]
        show _ ∧ k ∈ ((s.build.countAttempt key).recordEach key loss.digests).cache ↔ _
        rw [hsame.cache]
        rfl

end Session

end Rewinding
