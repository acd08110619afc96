import Mathlib.Algebra.Group.Nat.Defs
import Mathlib.Data.Finset.Card
import Rewinding.Proofs.Handling

/-!
# What a rewind does

`Session.Applied` says how a handling that succeeds comes about: an attempt is counted, the losses are
remembered, a plan is found for them, and that plan is applied. What each part of the build is
afterwards follows from that form, part by part, and `effect_handle` puts the parts together. The
numbers that are handed out count nodes and keys, of which a plan names none twice.
-/

namespace Rewinding

open Planning

/-! ### Applying a plan, part by part -/

namespace Evaluation

theorem value?_restart (e : Evaluation) (r : Restart) (n : Node) :
    (e.restart r).2.value? n = if n ∈ r.nodes then none else e.value? n := by
  unfold restart value?
  rw [foldl_invalidate]
  exact getElem?_foldl_erase

theorem generation_restart (e : Evaluation) (r : Restart) (n : Node) :
    (e.restart r).2.generation n = e.generation n := by
  unfold restart generation
  rw [foldl_invalidate]

/-- A restart that names no node twice counts those that were done. -/
theorem restart_fst {e : Evaluation} {r : Restart} (h : r.nodes.Nodup) :
    (e.restart r).1 = (r.nodes.toFinset.filter fun n => e.isDone n = true).card := by
  unfold restart
  rw [← List.toFinset_filter, List.toFinset_card_of_nodup (h.filter _)]

end Evaluation

namespace Build

theorem attemptsOf_countAttempt (b : Build) (key k : ActionKey) :
    (b.countAttempt key).attemptsOf k = if key = k then b.attemptsOf key + 1 else b.attemptsOf k := by
  unfold countAttempt attemptsOf
  rw [Std.ExtTreeMap.getElem?_insert]
  simp only [Std.LawfulEqCmp.compare_eq_iff_eq]
  split <;> rfl

/-- What is evicted first is not there any more when it is met again, so an eviction counts each key
once. -/
theorem evictEach_fst (b : Build) (keys : List ActionKey) :
    (b.evictEach keys).1 = (keys.toFinset.filter fun k => k ∈ b.cache).card := by
  induction keys generalizing b with
  | nil => rfl
  | cons key keys ih =>
    have hrest : (keys.toFinset.filter fun k => k ∈ (b.evict key).cache) =
        (keys.toFinset.filter fun k => k ∈ b.cache).erase key := by
      ext k
      simp only [Finset.mem_filter, Finset.mem_erase, evict, Std.ExtTreeMap.mem_erase, ne_eq,
        Std.LawfulEqCmp.compare_eq_iff_eq]
      constructor
      · rintro ⟨hk, hne, hc⟩
        exact ⟨fun he => hne he.symm, hk, hc⟩
      · rintro ⟨hne, hk, hc⟩
        exact ⟨hk, fun he => hne he.symm, hc⟩
    unfold evictEach
    simp only
    rw [ih, hrest, List.toFinset_cons, Finset.filter_insert]
    by_cases hc : key ∈ b.cache
    · rw [if_pos hc, ← Finset.erase_insert_eq_erase, decide_eq_true hc]
      exact Finset.card_erase_add_one (Finset.mem_insert_self ..)
    · have hnot : key ∉ keys.toFinset.filter fun k => k ∈ b.cache :=
        fun hk => hc (Finset.mem_filter.1 hk).2
      rw [if_neg hc, Finset.erase_eq_of_notMem hnot, decide_eq_false hc]
      rfl

end Build

/-! ### How a handling succeeds -/

namespace Session

/-- The build for which a plan is found: the attempt is counted, and the losses are remembered. -/
def remembering (s : Session) (key : ActionKey) (loss : Loss) : Build :=
  (s.build.countAttempt key).recordEach key loss.digests

theorem sameButMemory_remembering (s : Session) (key : ActionKey) (loss : Loss) :
    (s.build.countAttempt key).SameButMemory key (s.remembering key loss) :=
  Build.sameButMemory_recordEach ..

/-- A handling of the loss of inputs of `key` that succeeds, and leaves the build `b`. -/
structure Applied (s : Session) (key : ActionKey) (loss : Loss) (o : Outcome) (b : Build) : Prop where
  running : s.build.interrupted = false
  known : key ∈ s.graph.actions
  admitted : ¬s.build.attemptsOf key + 1 > s.maxRewinds
  fresh {digest : String} : digest ∈ loss.digests → ⟨key, digest⟩ ∉ s.build.history
  nodup : o.plan.restart.nodes.Nodup
  outcome : o = Planning.outcome o.plan key (s.build.attemptsOf key + 1) (s.remembering key loss)
  build : b = (((s.remembering key loss).restart o.plan.restart).evictEach
    (key :: o.plan.additionalKeys)).2

theorem applied_handle {s : Session} {key : ActionKey} {loss : Loss} {o : Outcome}
    (h : (s.handle key loss).1 = .ok o) : s.Applied key loss o (s.handle key loss).2.build := by
  have hend := s.handled_handle key loss
  rw [h] at hend
  generalize (s.handle key loss).2.build = b at hend
  cases hend with
  | @done failed plan b hi hf hm hp =>
    have hk : key ∈ s.graph.actions := Std.ExtTreeMap.mem_iff_isSome_getElem?.2 (hf ▸ rfl)
    have hnodup := hp.nodup_nodes
    cases hp with
    | planned hnew _ _ _ => exact ⟨hi, hk, hm, fun hd => hnew _ hd, hnodup, rfl, rfl⟩

namespace Applied

variable {s : Session} {key : ActionKey} {loss : Loss} {o : Outcome} {b : Build}
  (h : s.Applied key loss o b)
include h

theorem evaluation : b.evaluation = (s.build.evaluation.restart o.plan.restart).2 := by
  rw [h.build, Build.evictEach_snd]
  show (Evaluation.restart (s.remembering key loss).evaluation _).2 = _
  rw [(s.sameButMemory_remembering key loss).evaluation]
  rfl

theorem cache_eq (k : ActionKey) :
    b.cache[k]? = if k ∈ key :: o.plan.additionalKeys then none else s.build.cache[k]? := by
  rw [h.build, Build.evictEach_snd]
  show (List.foldl Std.ExtTreeMap.erase (s.remembering key loss).cache _)[k]? = _
  rw [getElem?_foldl_erase, (s.sameButMemory_remembering key loss).cache]
  rfl

theorem attemptsOf (k : ActionKey) : b.attemptsOf k = (s.build.countAttempt key).attemptsOf k := by
  rw [h.build, Build.evictEach_snd]
  show (s.remembering key loss).attempts[k]?.getD 0 = _
  rw [(s.sameButMemory_remembering key loss).attempts]
  rfl

theorem interrupted : b.interrupted = false := by
  rw [h.build, Build.evictEach_snd]
  show (s.remembering key loss).interrupted = false
  rw [(s.sameButMemory_remembering key loss).interrupted]
  exact h.running

theorem reports : b.reports = s.build.reports := by
  rw [h.build, Build.evictEach_snd]
  exact Build.reports_recordEach ..

theorem mem_history {l : LossRecord} :
    l ∈ b.history ↔ l ∈ s.build.history ∨ l.key = key ∧ l.digest ∈ loss.digests := by
  rw [h.build, Build.evictEach_snd]
  show l ∈ (s.remembering key loss).history ↔ _
  unfold remembering
  exact Build.mem_history_recordEach

theorem invalidated : o.invalidated =
    (o.plan.restart.nodes.toFinset.filter fun n => s.build.evaluation.isDone n = true).card := by
  rw [h.outcome]
  show (Evaluation.restart (s.remembering key loss).evaluation _).1 = _
  rw [(s.sameButMemory_remembering key loss).evaluation, Evaluation.restart_fst h.nodup]
  rfl

theorem evicted : o.evicted =
    ((key :: o.plan.additionalKeys).toFinset.filter fun k => k ∈ s.build.cache).card := by
  rw [h.outcome]
  show (((s.remembering key loss).restart o.plan.restart).evictEach _).1 = _
  rw [Build.evictEach_fst]
  show (Finset.filter (fun k => k ∈ (s.remembering key loss).cache) _).card = _
  rw [(s.sameButMemory_remembering key loss).cache]
  rfl

end Applied

/-! ### The effect as a whole -/

/-- What a rewind of `key` for a loss, with the outcome `o`, makes of the build `b`. -/
structure Effect (key : ActionKey) (loss : Loss) (o : Outcome) (b b' : Build) : Prop where
  /-- A node of the plan is not done; another one is as done as before. -/
  isDone (n : Node) : b'.evaluation.isDone n = true ↔
    b.evaluation.isDone n = true ∧ n ∉ o.plan.restart.nodes
  /-- What is still done keeps its value. -/
  value? (n : Node) : b'.evaluation.isDone n = true → b'.evaluation.value? n = b.evaluation.value? n
  generation (n : Node) : b'.evaluation.generation n = b.evaluation.generation n
  /-- The executions of the failed action and of the plan's other actions are forgotten. -/
  cache (k : ActionKey) : b'.cache[k]? =
    if k = key ∨ k ∈ o.plan.additionalKeys then none else b.cache[k]?
  invalidated : o.invalidated =
    (o.plan.restart.nodes.toFinset.filter fun n => b.evaluation.isDone n = true).card
  evicted : o.evicted = ((key :: o.plan.additionalKeys).toFinset.filter fun k => k ∈ b.cache).card
  attempt : o.attempt = b'.attemptsOf key
  attempts : (b'.attemptsOf key).toNat = (b.attemptsOf key).toNat + 1
  others (k : ActionKey) : k ≠ key → b'.attemptsOf k = b.attemptsOf k
  history (l : LossRecord) : l ∈ b'.history ↔ l ∈ b.history ∨ l.key = key ∧ l.digest ∈ loss.digests
  /-- What was lost is new to the history. -/
  fresh (digest : String) : digest ∈ loss.digests → ⟨key, digest⟩ ∉ b.history
  interrupted : b'.interrupted = b.interrupted
  reports : b'.reports = b.reports

/-- **The effect of a rewind.** A handling that succeeds restarts the nodes of its plan, forgets the
executions of its actions, counts one attempt and remembers the losses, which are new; it changes
nothing else, and counts right. The attempts of the action must be fewer than their counter holds. -/
theorem effect_handle (s : Session) (key : ActionKey) (loss : Loss) (o : Outcome)
    (hc : (s.build.attemptsOf key).toNat < 2 ^ 32 - 1) (h : (s.handle key loss).1 = .ok o) :
    Effect key loss o s.build (s.handle key loss).2.build := by
  have ha := applied_handle h
  have hattempts := ha.attemptsOf key
  rw [Build.attemptsOf_countAttempt, if_pos rfl] at hattempts
  refine ⟨fun n => ?_, fun n hn => ?_, fun n => ?_, fun k => ?_, ha.invalidated, ha.evicted, ?_, ?_,
    fun k hk => ?_, fun l => ha.mem_history, fun d hd => ha.fresh hd,
    ha.interrupted.trans ha.running.symm, ha.reports⟩
  · rw [ha.evaluation, Evaluation.isDone_restart]
    exact and_comm
  · rw [ha.evaluation] at hn ⊢
    rw [Evaluation.isDone_restart] at hn
    rw [Evaluation.value?_restart, if_neg hn.1]
  · rw [ha.evaluation, Evaluation.generation_restart]
  · rw [ha.cache_eq]
    simp only [List.mem_cons]
  · rw [hattempts, ha.outcome]
    rfl
  · rw [hattempts, UInt32.toNat_add]
    have hone : (1 : UInt32).toNat = 1 := rfl
    omega
  · rw [ha.attemptsOf, Build.attemptsOf_countAttempt, if_neg fun he => hk he.symm]

/-- A session in the middle of a build. The action `//f#0` was rewound before; `//p#0` passes on to it
what `//q#0` makes, which is not done. -/
def halfway : Session where
  graph :=
    { actions := Std.ExtTreeMap.ofList <| List.map (fun a : Action => (a.key, a))
        [{ key := ⟨"//f", 0⟩, inputs := [⟨"x", .derived⟩] },
         { key := ⟨"//p", 0⟩, inputs := [⟨"y", .derived⟩], propagates := true },
         { key := ⟨"//q", 0⟩ }]
      artifacts := ∅
      producers := Std.ExtTreeMap.ofList
        [("x", .single ⟨"//p", 0⟩), ("y", Producers.single ⟨"//q", 0⟩)]
      treeOwners := ∅
      runfilesOwners := ∅
      extraNodes := ∅ }
  reporter := .log
  maxRewinds := 2
  build :=
    { evaluation :=
        { done := Std.ExtTreeMap.ofList
            [(.artifact "x", "1"), (.action ⟨"//p", 0⟩, "2"), (Node.action ⟨"//q", 0⟩, "3")] }
      cache := Std.ExtTreeMap.ofList [(⟨"//f", 0⟩, []), ((⟨"//p", 0⟩ : ActionKey), [])]
      history := Std.ExtTreeSet.ofList [(⟨⟨"//f", 0⟩, "0"⟩ : LossRecord)]
      attempts := Std.ExtTreeMap.ofList [((⟨"//f", 0⟩ : ActionKey), (1 : UInt32))] }

/-- The loss of the input of `//f#0`. -/
def halfwayLoss : Loss := .ofEntries "" [("1", .artifact ⟨"x", .derived⟩)] ∅

theorem effect_handle_halfway : ∃ o,
    (halfway.build.attemptsOf ⟨"//f", 0⟩).toNat < 2 ^ 32 - 1 ∧
    (halfway.handle ⟨"//f", 0⟩ halfwayLoss).1 = .ok o ∧
    Effect ⟨"//f", 0⟩ halfwayLoss o halfway.build (halfway.handle ⟨"//f", 0⟩ halfwayLoss).2.build := by
  obtain ⟨o, ho⟩ := exists_eq_ok (x := (halfway.handle ⟨"//f", 0⟩ halfwayLoss).1) (by decide +kernel)
  have hc : (halfway.build.attemptsOf ⟨"//f", 0⟩).toNat < 2 ^ 32 - 1 := by decide +kernel
  exact ⟨o, hc, ho, effect_handle halfway _ _ o hc ho⟩

/-- Three nodes were done, and two executions remembered. -/
example : (halfway.handle ⟨"//f", 0⟩ halfwayLoss).1.toOption.map
    (fun o => (o.invalidated, o.evicted, o.attempt)) = some (3, 2, 2) := by decide +kernel

end Session

end Rewinding
