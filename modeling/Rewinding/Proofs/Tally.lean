import Mathlib.Algebra.BigOperators.Group.List.Basic
import Mathlib.Algebra.GroupWithZero.Nat
import Rewinding.Proofs.Effect
import Rewinding.Proofs.Recording

/-!
# What rewinds count that run side by side

Several losses may be handled at once on one build, and each rewind takes nodes and executions away
one at a time, while others do the same. What one has taken is not there any more when another one
comes to it, so nothing is counted twice, and what the rewinds count together is what is gone in the
end (`counts_of_crew`).

* `Tally` is what a computation has taken away so far. `Procedure.Counts` says of a computation that
  it ends in agreement with its tally, whatever its steps are answered, and so whatever the others do
  in between; `tallied_handle` says that the handling of a loss is such a computation.
* `Tallies` is what a turn of a crew keeps: the tallies of its members add up to what is gone.
-/

namespace Rewinding

open Procedure Planning

variable {known : List Action} {α β ε δ : Type}

/-! ### The tally of a computation -/

/-- What a computation has taken out of a table, one thing after another. -/
structure Haul (α : Type) where
  items : List α := []
  /-- How many of them were in the table when the computation came to them. -/
  found : Nat := 0

namespace Haul

def take (h : Haul α) (item : α) (wasThere : Bool) : Haul α :=
  ⟨h.items ++ [item], h.found + wasThere.toNat⟩

/-- Some more things, of which `found` were in the table. -/
def takeAll (h : Haul α) (items : List α) (found : Nat) : Haul α := ⟨h.items ++ items, h.found + found⟩

theorem takeAll_nil (h : Haul α) : h.takeAll [] 0 = h := by
  unfold takeAll
  rw [List.append_nil]
  rfl

theorem takeAll_take (h : Haul α) (item : α) (wasThere : Bool) (items : List α) (found : Nat) :
    (h.take item wasThere).takeAll items found =
      h.takeAll (item :: items) (found + wasThere.toNat) := by
  unfold take takeAll
  rw [List.append_assoc, Nat.add_assoc, Nat.add_comm found]
  rfl

end Haul

/-- What a computation has taken away from a build: nodes that it made not done, and actions whose
last execution it made forgotten. -/
structure Tally where
  nodes : Haul Node := {}
  keys : Haul ActionKey := {}

namespace Tally

/-- The tally after one more step. -/
def add (t : Tally) : (step : Step known) → step.Answer → Tally
  | .invalidate node, wasDone => { t with nodes := t.nodes.take node wasDone }
  | .evict key, wasCached => { t with keys := t.keys.take key wasCached }
  | _, _ => t

/-- Nothing has been taken away. -/
def IsNil (t : Tally) : Prop := t = {}

/-- What the rewind of `key` ends with says what it has taken away: that is what its plan names, or
nothing if it has no outcome. -/
def Settles (key : ActionKey) (t : Tally) : Except Stop Outcome → Prop
  | .ok o => t = ⟨⟨o.plan.restart.nodes, o.invalidated⟩, ⟨key :: o.plan.additionalKeys, o.evicted⟩⟩
  | .error _ => t.IsNil

end Tally

/-- Whatever its steps are answered, a procedure that has come to the tally `t` ends with a value for
which `post` holds, along with the tally then. -/
def Procedure.Counts (post : Tally → α → Prop) : Procedure known α → Tally → Prop
  | .done value, t => post t value
  | .ask step next, t => ∀ answer, (next answer).Counts post (t.add step answer)

theorem Procedure.Counts.bind {mid : Tally → α → Prop} {post : Tally → β → Prop}
    {p : Procedure known α} {f : α → Procedure known β} {t : Tally} (hp : p.Counts mid t)
    (hf : ∀ t value, mid t value → (f value).Counts post t) : (p >>= f).Counts post t := by
  show (p.bind f).Counts post t
  induction p generalizing t with
  | done value => exact hf t value hp
  | ask step next ih => exact fun answer => ih answer (hp answer)

theorem Procedure.Counts.mono {post post' : Tally → α → Prop} {p : Procedure known α} {t : Tally}
    (hp : p.Counts post t) (h : ∀ t value, post t value → post' t value) : p.Counts post' t := by
  induction p generalizing t with
  | done value => exact h t value hp
  | ask step next ih => exact fun answer => ih answer (hp answer)

/-- What only asks takes nothing away. -/
theorem Procedure.Asks.counts {post : α → Prop} {p : Procedure known α}
    (hp : p.Asks (fun _ => True) post) (t : Tally) : p.Counts (fun t' _ => t' = t) t := by
  induction p with
  | done value => rfl
  | ask step next ih =>
    intro answer
    obtain ⟨hquery, hnext⟩ := hp
    have husual : step.Usual (fun _ => True) answer := by
      unfold Step.Usual
      split <;> trivial
    have hsame : t.add step answer = t := by
      cases step with
      | interrupted | discover _ | lookup _ => rfl
      | record _ _ | report _ | attempt _ | invalidate _ | evict _ => exact hquery.elim
    rw [hsame]
    exact ih answer (hnext answer husual)

/-- The computation, with the tally `t` at its start, ends with a result for which `post` holds, along
with the tally then, or early with a tally for which `stop` holds. -/
def Tallied (stop : Tally → Prop) (t : Tally) (x : ExceptT ε (Procedure known) α)
    (post : Tally → α → Prop) : Prop :=
  x.run.Counts (fun t' => fun | .ok value => post t' value | .error _ => stop t') t

namespace Tallied

variable {stop : Tally → Prop} {t : Tally}

theorem pure {post : Tally → α → Prop} {value : α} (h : post t value) :
    Tallied stop t (Pure.pure value : ExceptT ε (Procedure known) α) post := h

theorem fail {post : Tally → α → Prop} (h : stop t) (failure : Failure) :
    Tallied stop t (Attempt.fail failure : Attempt known α) post := h

theorem step {s : Step known} {post : Tally → s.Answer → Prop}
    (h : ∀ answer, post (t.add s answer) answer) : Tallied stop t (Attempt.step s) post := h

theorem bind {x : ExceptT ε (Procedure known) α} {f : α → ExceptT ε (Procedure known) β}
    {mid : Tally → α → Prop} {post : Tally → β → Prop} (hx : Tallied stop t x mid)
    (hf : ∀ t' value, mid t' value → Tallied stop t' (f value) post) :
    Tallied stop t (x >>= f) post := by
  unfold Tallied at hx ⊢
  rw [ExceptT.run_bind]
  refine hx.bind fun t' result hr => ?_
  cases result with
  | ok value => exact hf t' value hr
  | error e => exact hr

/-- What follows a part that takes nothing away. -/
theorem bind_idle {x : ExceptT ε (Procedure known) α} {f : α → ExceptT ε (Procedure known) β}
    {post : Tally → β → Prop} (hx : Tallied stop t x fun t' _ => t' = t)
    (hf : ∀ value, Tallied stop t (f value) post) : Tallied stop t (x >>= f) post :=
  hx.bind fun _ value ht => ht ▸ hf value

theorem of_inquires {post : ε → Prop} {x : ExceptT ε (Procedure known) α} (ht : stop t)
    (hx : Inquires (fun _ => True) post x) : Tallied stop t x fun t' _ => t' = t := by
  refine Procedure.Counts.mono (Procedure.Asks.counts hx t) fun t' result hr => ?_
  obtain rfl : t' = t := hr
  cases result with
  | ok value => rfl
  | error e => exact ht

theorem adapt {post : Tally → α → Prop} {x : ExceptT ε (Procedure known) α} (f : ε → δ)
    (hx : Tallied stop t x post) : Tallied stop t (x.adapt f) post := by
  refine Procedure.Counts.bind hx fun t' result hr => ?_
  cases result <;> exact hr

end Tallied

/-! ### The handling of a loss -/

namespace Planning

section Idle

variable {stop : Tally → Prop} {t : Tally} (ht : stop t)
include ht

theorem tallied_report (message : String) :
    Tallied stop t (Attempt.report message : Attempt known Unit) fun t' _ => t' = t := by
  refine .bind_idle (.step fun _ => rfl) fun crash => ?_
  cases crash with
  | none => exact .pure rfl
  | some text => exact ht

theorem tallied_recordAll (failed : Action) (key : ActionKey) (loss : Loss)
    (lost : List (String × Input)) :
    Tallied stop t (recordAll failed key loss lost : Attempt known Unit) fun t' _ => t' = t := by
  induction lost with
  | nil => exact .pure rfl
  | cons entry lost ih =>
    unfold recordAll
    refine .bind_idle (.step fun _ => rfl) fun isNew => ?_
    cases isNew with
    | true => exact ih
    | false => exact .bind_idle (tallied_report ht _) fun _ => .fail ht _

theorem tallied_responsible (failed : Action) (directDeps : Std.ExtTreeSet Node) (loss : Loss)
    (runfiles : Owners) :
    Tallied stop t (responsible failed directDeps loss runfiles : Attempt known Responsible)
      fun t' _ => t' = t := by
  unfold responsible
  split
  case h_1 => exact .pure rfl
  case h_2 failure _ =>
    split
    · exact .bind_idle (tallied_report ht _) fun _ => .fail ht _
    · exact .fail ht _

/-- Nothing is taken away before the plan is complete. -/
theorem tallied_planFor (failed : Action) (key : ActionKey) (directDeps : Std.ExtTreeSet Node)
    (loss : Loss) (runfiles : Owners) :
    Tallied stop t (planFor failed key directDeps loss runfiles : Attempt known Plan)
      fun t' _ => t' = t := by
  unfold planFor
  refine .bind_idle (tallied_recordAll ht failed key loss _) fun _ => ?_
  refine .bind_idle (tallied_responsible ht failed directDeps loss runfiles) fun r => ?_
  simp only
  split
  case isTrue => exact .bind (.fail ht _) fun _ _ (hnever : False) => hnever.elim
  case isFalse =>
    exact .bind_idle (.adapt _ (.of_inquires ht (Walk.inquires_rewindAll trivial _ _))) fun _ =>
      .pure rfl

end Idle

variable {stop : Tally → Prop}

theorem tallied_invalidateAll (nodes : List Node) (t : Tally) :
    Tallied stop t (invalidateAll nodes : Attempt known Nat) fun t' count =>
      t' = { t with nodes := t.nodes.takeAll nodes count } := by
  induction nodes generalizing t with
  | nil => exact .pure (by rw [Haul.takeAll_nil])
  | cons node nodes ih =>
    unfold invalidateAll
    have hstep : Tallied stop t (Attempt.step (.invalidate node) : Attempt known Bool)
        fun t' wasDone => t' = { t with nodes := t.nodes.take node wasDone } := .step fun _ => rfl
    refine hstep.bind fun t₁ wasDone h₁ => .bind (ih t₁) fun t₂ count h₂ => .pure ?_
    rw [h₂, h₁, Haul.takeAll_take]

theorem tallied_evictAll (keys : List ActionKey) (t : Tally) :
    Tallied stop t (evictAll keys : Attempt known Nat) fun t' count =>
      t' = { t with keys := t.keys.takeAll keys count } := by
  induction keys generalizing t with
  | nil => exact .pure (by rw [Haul.takeAll_nil])
  | cons key keys ih =>
    unfold evictAll
    have hstep : Tallied stop t (Attempt.step (.evict key) : Attempt known Bool)
        fun t' wasCached => t' = { t with keys := t.keys.take key wasCached } := .step fun _ => rfl
    refine hstep.bind fun t₁ wasCached h₁ => .bind (ih t₁) fun t₂ count h₂ => .pure ?_
    rw [h₂, h₁, Haul.takeAll_take]

/-- **The handling of a loss counts what it takes away**, and takes away what its plan names. -/
theorem tallied_handle (maxRewinds : UInt32) (runfiles : Owners) (key : ActionKey) (loss : Loss) :
    (handle maxRewinds runfiles key loss : Attempt known Outcome).run.Counts
      (Tally.Settles key) {} := by
  have hnil : Tally.IsNil {} := rfl
  have h : Tallied Tally.IsNil {} (handle maxRewinds runfiles key loss : Attempt known Outcome)
      fun t o => t.Settles key (.ok o) := by
    unfold handle
    refine .bind_idle (.of_inquires hnil (.checkInterrupt trivial)) fun _ => ?_
    refine .bind_idle (.of_inquires hnil (.lookup key)) fun failed => ?_
    refine .bind_idle (.step fun _ => rfl) fun attempt => ?_
    split
    case isTrue => exact .bind (.fail hnil _) fun _ _ (hnever : False) => hnever.elim
    case isFalse =>
      refine .bind_idle (tallied_planFor hnil ..) fun plan => ?_
      refine .bind (tallied_invalidateAll _ _) fun t₁ invalidated h₁ => ?_
      refine .bind (tallied_evictAll _ _) fun t₂ evicted h₂ => .pure ?_
      rw [h₂, h₁]
      simp [Tally.Settles, Haul.takeAll]
  refine h.mono fun t result hr => ?_
  cases result <;> exact hr

end Planning

/-! ### What is gone -/

section Gone

variable [Ord α] [Std.TransOrd α] {before after : Std.ExtTreeMap α β}

/-- The keys of a table that are not in a later one. -/
def gone (before after : Std.ExtTreeMap α β) : List α := before.keys.filter fun k => k ∉ after

theorem nodup_gone (before after : Std.ExtTreeMap α β) : (gone before after).Nodup :=
  Std.ExtTreeMap.nodup_keys.filter _

variable [Std.LawfulEqOrd α]

theorem mem_gone {k : α} : k ∈ gone before after ↔ k ∈ before ∧ k ∉ after := by
  unfold gone
  rw [List.mem_filter, Std.ExtTreeMap.mem_keys, decide_eq_true_eq]

theorem gone_self (m : Std.ExtTreeMap α β) : gone m m = [] :=
  List.eq_nil_iff_forall_not_mem.2 fun _ hk => (mem_gone.1 hk).2 (mem_gone.1 hk).1

/-- An erasure loses a key if the table has it. -/
theorem length_gone_erase (hold : ∀ k ∈ after, k ∈ before) (k : α) :
    (gone before (after.erase k)).length =
      (gone before after).length + (decide (k ∈ after)).toNat := by
  have hmem (x : α) : x ∈ gone before (after.erase k) ↔ x ∈ before ∧ (x = k ∨ x ∉ after) := by
    rw [mem_gone, Std.ExtTreeMap.mem_erase, ne_eq, Std.LawfulEqCmp.compare_eq_iff_eq, not_and_or,
      not_not, eq_comm]
  by_cases hk : k ∈ after
  case pos =>
    have hperm : (gone before (after.erase k)).Perm (k :: gone before after) := by
      refine (List.perm_ext_iff_of_nodup (nodup_gone ..) ?_).2 fun x => ?_
      · exact List.nodup_cons.2 ⟨fun h => (mem_gone.1 h).2 hk, nodup_gone ..⟩
      · rw [hmem, List.mem_cons, mem_gone]
        constructor
        · rintro ⟨hx, rfl | hnot⟩
          · exact Or.inl rfl
          · exact Or.inr ⟨hx, hnot⟩
        · rintro (rfl | ⟨hx, hnot⟩)
          · exact ⟨hold x hk, Or.inl rfl⟩
          · exact ⟨hx, Or.inr hnot⟩
    rw [hperm.length_eq, decide_eq_true hk]
    rfl
  case neg =>
    have hperm : (gone before (after.erase k)).Perm (gone before after) := by
      refine (List.perm_ext_iff_of_nodup (nodup_gone ..) (nodup_gone ..)).2 fun x => ?_
      rw [hmem, mem_gone]
      refine and_congr_right fun _ => ⟨?_, Or.inr⟩
      rintro (rfl | hnot)
      · exact hk
      · exact hnot
    rw [hperm.length_eq, decide_eq_false hk]
    rfl

/-- What is in some `hauls` is not in the table any more, and what they found there is what the table
has lost since it was `before`. -/
structure Dwindled (before after : Std.ExtTreeMap α β) (hauls : List (Haul α)) : Prop where
  old {k : α} : k ∈ after → k ∈ before
  taken {haul : Haul α} {k : α} : haul ∈ hauls → k ∈ haul.items → k ∉ after
  found : (hauls.map Haul.found).sum = (gone before after).length

theorem set_of_getElem? {l : List δ} {i : Nat} {a : δ} (h : l[i]? = some a) : l.set i a = l := by
  obtain ⟨hlt, rfl⟩ := List.getElem?_eq_some_iff.1 h
  exact List.set_getElem_self hlt

/-- Where one summand grows, so does the sum. -/
theorem sum_map_set {l : List δ} {i : Nat} {a b : δ} {f : δ → Nat} {d : Nat} (h : l[i]? = some a)
    (hf : f b = f a + d) : ((l.set i b).map f).sum = (l.map f).sum + d := by
  induction l generalizing i with
  | nil => cases h
  | cons x l ih =>
    cases i with
    | zero =>
      obtain rfl : x = a := Option.some.inj h
      simp only [List.set_cons_zero, List.map_cons, List.sum_cons, hf, Nat.add_right_comm]
    | succ i => simp only [List.set_cons_succ, List.map_cons, List.sum_cons, ih h, Nat.add_assoc]

namespace Dwindled

variable {hauls : List (Haul α)}

/-- Nothing has been taken. -/
theorem start (m : Std.ExtTreeMap α β) (n : Nat) : Dwindled m m (List.replicate n {}) where
  old := id
  taken hhaul hk := by
    rw [List.eq_of_mem_replicate hhaul] at hk
    cases hk
  found := by
    rw [gone_self, List.map_replicate, List.sum_replicate]
    exact Nat.mul_zero n

omit [Std.LawfulEqOrd α] in
theorem idle (h : Dwindled before after hauls) {i : Nat} {haul : Haul α} (hi : hauls[i]? = some haul) :
    Dwindled before after (hauls.set i haul) := by
  rwa [set_of_getElem? hi]

/-- One of the hauls takes one thing more out of the table. -/
theorem take (h : Dwindled before after hauls) {i : Nat} {haul : Haul α} (hi : hauls[i]? = some haul)
    (k : α) : Dwindled before (after.erase k) (hauls.set i (haul.take k (decide (k ∈ after)))) where
  old hx := h.old (Std.ExtTreeMap.mem_of_mem_erase hx)
  taken {other x} hother hx := by
    rw [Std.ExtTreeMap.mem_erase, ne_eq, Std.LawfulEqCmp.compare_eq_iff_eq]
    rintro ⟨hne, hmem⟩
    obtain hother | rfl := List.mem_or_eq_of_mem_set hother
    · exact h.taken hother hx hmem
    · obtain hx | hx := List.mem_append.1 hx
      · exact h.taken (List.mem_of_getElem? hi) hx hmem
      · exact hne (List.mem_singleton.1 hx).symm
  found := by
    rw [length_gone_erase fun _ => h.old, ← h.found]
    exact sum_map_set hi rfl

end Dwindled

end Gone

/-! ### Rewinds side by side -/

theorem Crew.turn_of_done {σ : Type} (world : World known σ) {c : Crew known α σ} {i : Nat} {value : α}
    (h : c.members[i]? = some (.done value)) : c.turn world i = c := by
  unfold turn
  rw [h]
  show { members := c.members.set i (.done value), state := c.state } = c
  rw [set_of_getElem? h]

namespace Session

/-- Each member of a crew that handles losses has come to a tally, and together these are what the
build has lost since it was that of the session. -/
structure Tallies (s : Session) (losses : List (ActionKey × Loss))
    (c : Crew s.graph.roster (Except Stop Outcome) Build) (tallies : List Tally) : Prop where
  length_members : c.members.length = losses.length
  length_tallies : tallies.length = losses.length
  member {i : Nat} {key : ActionKey} {loss : Loss} {p : Procedure s.graph.roster (Except Stop Outcome)}
    {t : Tally} : losses[i]? = some (key, loss) → c.members[i]? = some p → tallies[i]? = some t →
      p.Counts (Tally.Settles key) t
  nodes : Dwindled s.build.evaluation.done c.state.evaluation.done (tallies.map Tally.nodes)
  keys : Dwindled s.build.cache c.state.cache (tallies.map Tally.keys)

namespace Tallies

variable {s : Session} {losses : List (ActionKey × Loss)}
  {c : Crew s.graph.roster (Except Stop Outcome) Build} {tallies : List Tally}

theorem start (s : Session) (losses : List (ActionKey × Loss)) :
    s.Tallies losses (s.crew losses) (List.replicate losses.length {}) where
  length_members := List.length_map ..
  length_tallies := List.length_replicate
  member {i key loss p t} hi hp ht := by
    have hmember : (s.crew losses).members[i]? = some (s.handling key loss).run := by
      unfold crew
      rw [List.getElem?_map, hi]
      rfl
    obtain rfl := Option.some.inj (hmember.symm.trans hp)
    obtain rfl := List.eq_of_mem_replicate (List.mem_of_getElem? ht)
    exact Planning.tallied_handle s.maxRewinds s.graph.runfilesOwners key loss
  nodes := by
    rw [List.map_replicate]
    exact .start ..
  keys := by
    rw [List.map_replicate]
    exact .start ..

/-- A step that takes a node away takes it out of the table of nodes that are done; any other step
leaves that table and the tally of nodes alone. -/
theorem dwindled_nodes (h : s.Tallies losses c tallies) {i : Nat} {t : Tally}
    (ht : tallies[i]? = some t) (step : Step s.graph.roster) :
    Dwindled s.build.evaluation.done
      ((Build.world s.graph s.reporter).answer step c.state).2.evaluation.done
      ((tallies.set i (t.add step ((Build.world s.graph s.reporter).answer step c.state).1)).map
        Tally.nodes) := by
  have hi : (tallies.map Tally.nodes)[i]? = some t.nodes := by rw [List.getElem?_map, ht]; rfl
  rw [List.map_set]
  cases step with
  | invalidate node => exact h.nodes.take hi node
  | report message =>
    obtain ⟨reports, htake⟩ := c.state.exists_take_eq s.reporter message
    show Dwindled _ (c.state.take s.reporter message).evaluation.done _
    rw [htake]
    exact h.nodes.idle hi
  | interrupted | discover _ | lookup _ | record _ _ | attempt _ | evict _ =>
    exact h.nodes.idle hi

/-- The same for the executions that are remembered. -/
theorem dwindled_keys (h : s.Tallies losses c tallies) {i : Nat} {t : Tally}
    (ht : tallies[i]? = some t) (step : Step s.graph.roster) :
    Dwindled s.build.cache ((Build.world s.graph s.reporter).answer step c.state).2.cache
      ((tallies.set i (t.add step ((Build.world s.graph s.reporter).answer step c.state).1)).map
        Tally.keys) := by
  have hi : (tallies.map Tally.keys)[i]? = some t.keys := by rw [List.getElem?_map, ht]; rfl
  rw [List.map_set]
  cases step with
  | evict key => exact h.keys.take hi key
  | report message =>
    obtain ⟨reports, htake⟩ := c.state.exists_take_eq s.reporter message
    show Dwindled _ (c.state.take s.reporter message).cache _
    rw [htake]
    exact h.keys.idle hi
  | interrupted | discover _ | lookup _ | record _ _ | attempt _ | invalidate _ =>
    exact h.keys.idle hi

/-- **A turn keeps the tallies**: a step that takes something away is added to the tally of the member
that takes it. -/
theorem turn (h : s.Tallies losses c tallies) (i : Nat) : ∃ tallies',
    s.Tallies losses (c.turn (Build.world s.graph s.reporter) i) tallies' := by
  cases hp : c.members[i]? with
  | none =>
    rw [Crew.turn_of_length_le _ (List.getElem?_eq_none_iff.1 hp)]
    exact ⟨tallies, h⟩
  | some p =>
    cases p with
    | done value =>
      rw [Crew.turn_of_done _ hp]
      exact ⟨tallies, h⟩
    | ask step next =>
      have hlt : i < tallies.length := by
        rw [h.length_tallies, ← h.length_members]
        exact (List.getElem?_eq_some_iff.1 hp).1
      have ht : tallies[i]? = some tallies[i] := List.getElem?_eq_getElem hlt
      have hmembers := Crew.getElem?_members_turn (Build.world s.graph s.reporter) hp
      have hlength := c.length_members_turn (Build.world s.graph s.reporter) i
      refine ⟨tallies.set i (tallies[i].add step
        ((Build.world s.graph s.reporter).answer step c.state).1), hlength.trans h.length_members, ?_,
        ?_, ?_, ?_⟩
      · rw [List.length_set, h.length_tallies]
      · intro j key loss p t hj hp' ht'
        rw [hmembers] at hp'
        rw [List.getElem?_set] at ht'
        by_cases he : i = j
        · subst he
          rw [if_pos rfl] at hp'
          rw [if_pos rfl, if_pos hlt] at ht'
          obtain rfl := Option.some.inj hp'
          obtain rfl := Option.some.inj ht'
          exact h.member hj hp ht _
        · rw [if_neg he] at hp' ht'
          exact h.member hj hp' ht'
      · rw [Crew.state_turn _ hp]
        exact h.dwindled_nodes ht step
      · rw [Crew.state_turn _ hp]
        exact h.dwindled_keys ht step

theorem work (h : s.Tallies losses c tallies) (schedule : List Nat) : ∃ tallies',
    s.Tallies losses (c.work (Build.world s.graph s.reporter) schedule) tallies' := by
  induction schedule generalizing c tallies with
  | nil => exact ⟨tallies, h⟩
  | cons i schedule ih =>
    obtain ⟨tallies', h'⟩ := h.turn i
    exact ih h'

section Ended

variable {results : List (Except Stop Outcome)}

/-- When all members have ended, what they have ended with says what they have taken. -/
theorem settles (h : s.Tallies losses c tallies) (hr : c.results? = some results) {i : Nat}
    {key : ActionKey} {loss : Loss} {t : Tally} {result : Except Stop Outcome}
    (hi : losses[i]? = some (key, loss)) (ht : tallies[i]? = some t)
    (hresult : results[i]? = some result) : t.Settles key result := by
  have hmember : c.members[i]? = some (.done result) := by
    rw [Crew.members_of_results? hr, List.getElem?_map, hresult]
    rfl
  exact h.member hi hmember ht

/-- What the rewinds have counted is what is in their tallies. -/
theorem sum_found (h : s.Tallies losses c tallies) (hr : c.results? = some results)
    {count : Outcome → Nat} {found : Tally → Nat}
    (hok : ∀ key t o, Tally.Settles key t (.ok o) → found t = count o)
    (hnil : ∀ t, Tally.IsNil t → found t = 0) :
    ((results.filterMap Except.toOption).map count).sum = (tallies.map found).sum := by
  have hlength : results.length = losses.length := by
    rw [← h.length_members, Crew.members_of_results? hr, List.length_map]
  have hsame : tallies.map found = results.map fun result => (result.toOption.map count).getD 0 := by
    have hsize := h.length_tallies.trans hlength.symm
    refine List.ext_getElem (by simp only [List.length_map, hsize]) fun i hi hi' => ?_
    rw [List.getElem_map, List.getElem_map]
    rw [List.length_map] at hi hi'
    have hsettles := h.settles hr (List.getElem?_eq_getElem (hlength ▸ hi'))
      (List.getElem?_eq_getElem hi) (List.getElem?_eq_getElem hi')
    cases hresult : results[i] with
    | ok o => exact hok _ _ _ (hresult ▸ hsettles)
    | error stop =>
      rw [hresult] at hsettles
      exact hnil _ hsettles
  rw [hsame]
  clear hr hlength hsame
  induction results with
  | nil => rfl
  | cons result results ih =>
    cases result with
    | ok o => exact congrArg (count o + ·) ih
    | error stop => exact ih.trans (Nat.zero_add _).symm

end Ended

end Tallies

/-- **Rewinds that run side by side count nothing twice and leave nothing behind.** However the
handlings of some losses take turns on one build, once all have ended: the nodes and the executions
that the rewinds have counted are together as many as the build has lost; no node of any of their plans
is done, and no execution of any of the actions that they were to forget is remembered. -/
theorem counts_of_crew (s : Session) (losses : List (ActionKey × Loss)) (schedule : List Nat)
    (results : List (Except Stop Outcome))
    (hr : ((s.crew losses).work (Build.world s.graph s.reporter) schedule).results? = some results) :
    let b := ((s.crew losses).work (Build.world s.graph s.reporter) schedule).state
    let outcomes := results.filterMap Except.toOption
    (outcomes.map Outcome.invalidated).sum =
      (gone s.build.evaluation.done b.evaluation.done).length ∧
    (outcomes.map Outcome.evicted).sum = (gone s.build.cache b.cache).length ∧
    ∀ (i : Nat) (key : ActionKey) (loss : Loss) (o : Outcome), losses[i]? = some (key, loss) →
      results[i]? = some (.ok o) →
      (∀ n ∈ o.plan.restart.nodes, b.evaluation.isDone n = false) ∧
      ∀ k ∈ key :: o.plan.additionalKeys, k ∉ b.cache := by
  intro b outcomes
  obtain ⟨tallies, h⟩ := (Tallies.start s losses).work schedule
  refine ⟨?_, ?_, ?_⟩
  · rw [← h.nodes.found, List.map_map]
    refine h.sum_found hr (fun key t o ht => ?_) fun t ht => ?_
    · rw [ht]
      rfl
    · rw [ht]
      rfl
  · rw [← h.keys.found, List.map_map]
    refine h.sum_found hr (fun key t o ht => ?_) fun t ht => ?_
    · rw [ht]
      rfl
    · rw [ht]
      rfl
  · intro i key loss o hi ho
    have hlt : i < tallies.length := by
      rw [h.length_tallies]
      exact (List.getElem?_eq_some_iff.1 hi).1
    have ht : tallies[i]? = some tallies[i] := List.getElem?_eq_getElem hlt
    have hmem := List.mem_of_getElem? ht
    have hplan : tallies[i] = _ := h.settles hr hi ht ho
    constructor
    · intro n hn
      refine decide_eq_false (h.nodes.taken (List.mem_map_of_mem hmem) ?_)
      rw [hplan]
      exact hn
    · intro k hk
      refine h.keys.taken (List.mem_map_of_mem hmem) ?_
      rw [hplan]
      exact hk

/-- Losses of two actions of `halfway`, of which the one makes what the other lost. -/
def halfwayLosses : List (ActionKey × Loss) :=
  [(⟨"//f", 0⟩, halfwayLoss), (⟨"//p", 0⟩, .ofEntries "" [("2", .artifact ⟨"y", .derived⟩)] ∅)]

/-- The two take turns, one step each. -/
def inStep : List Nat := (List.replicate 24 [0, 1]).flatten

theorem counts_of_crew_halfway : ∃ results,
    ((halfway.crew halfwayLosses).work (Build.world halfway.graph halfway.reporter) inStep).results? =
      some results ∧
    ((results.filterMap Except.toOption).map Outcome.invalidated).sum =
      (gone halfway.build.evaluation.done ((halfway.crew halfwayLosses).work
        (Build.world halfway.graph halfway.reporter) inStep).state.evaluation.done).length := by
  obtain ⟨results, hr⟩ := Option.isSome_iff_exists.1 (show ((halfway.crew halfwayLosses).work
    (Build.world halfway.graph halfway.reporter) inStep).results?.isSome from by decide +kernel)
  exact ⟨results, hr, (counts_of_crew halfway halfwayLosses inStep results hr).1⟩

/-- All nodes of the second plan are in the first one too; of the three that were done, the second
rewind takes two away and the first one the other. -/
example : ((halfway.crew halfwayLosses).work (Build.world halfway.graph halfway.reporter)
    inStep).results?.map (List.map fun result => result.toOption.map fun o =>
      (o.plan.restart.nodes.length, o.invalidated)) = some [some (5, 1), some (3, 2)] := by
  decide +kernel

end Session

end Rewinding
