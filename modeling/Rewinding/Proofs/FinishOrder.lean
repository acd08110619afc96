import Mathlib.Logic.Relation
import Rewinding.Proofs.Precedence

/-!
# A culprit leads back to itself

The other half of `Proofs/Precedence`. The search keeps, for every node that it has entered and not
left, where those after it are (`Exploring`): finished, to be entered or left first, or still to be
left afterwards, in which case they lead back to the node. So in the order that it ends with nothing
stands in front of what comes before it, unless it leads there (`Ordered`), and a node that is late is
on a cycle (`transGen_of_culprit?_eq_some`).
-/

namespace Rewinding.Precedence

open Relation

variable {α : Type} [DecidableEq α] {g : Precedence α}

/-! ### What is on the stack -/

def Visit.node : Visit α → α
  | .enter v => v
  | .leave v => v

/-- The node that a visit leaves. -/
def Visit.left? : Visit α → Option α
  | .enter _ => none
  | .leave v => some v

omit [DecidableEq α] in
theorem filterMap_left?_map_enter (vs : List α) : (vs.map Visit.enter).filterMap Visit.left? = [] := by
  simp [List.filterMap_map, Function.comp_def, Visit.left?]

omit [DecidableEq α] in
theorem mem_filterMap_left? {visits : List (Visit α)} {v : α} :
    v ∈ visits.filterMap Visit.left? ↔ .leave v ∈ visits := by
  rw [List.mem_filterMap]
  constructor
  · rintro ⟨visit, hm, he⟩
    cases visit with
    | enter w => cases he
    | leave w =>
      cases he
      exact hm
  · intro hm
    exact ⟨_, hm, rfl⟩

omit [DecidableEq α] in
/-- A leave below some enters is the next one, or lies below that. -/
theorem eq_or_exists_of_map_enter_append {next : List α} {visits before after : List (Visit α)}
    {u v : α} (h : next.map Visit.enter ++ .leave v :: visits = before ++ .leave u :: after) :
    (before = next.map Visit.enter ∧ u = v) ∨
      ∃ rest, before = next.map Visit.enter ++ .leave v :: rest ∧
        visits = rest ++ .leave u :: after := by
  induction next generalizing before with
  | nil =>
    cases before with
    | nil =>
      cases h
      exact Or.inl ⟨rfl, rfl⟩
    | cons visit before =>
      obtain ⟨rfl, hrest⟩ := List.cons.inj h
      exact Or.inr ⟨before, rfl, hrest⟩
  | cons w next ih =>
    cases before with
    | nil => cases h
    | cons visit before =>
      obtain ⟨rfl, hrest⟩ := List.cons.inj h
      rcases ih hrest with ⟨rfl, rfl⟩ | ⟨rest, rfl, hvisits⟩
      · exact Or.inl ⟨rfl, rfl⟩
      · exact Or.inr ⟨rest, rfl, hvisits⟩

/-- Each node of an order stands in front of those it comes directly before, but for those that lead
back to it. -/
def Ordered (g : Precedence α) (order : List α) : Prop :=
  ∀ before v after, order = before ++ v :: after → ∀ w, g.Precedes v w →
    w ∈ after ∨ TransGen g.Precedes w v

/-- Where a search stands. What lies on a leave was put there by the node to leave, or by nodes after
it. -/
structure Exploring (g : Precedence α) (visits : List (Visit α)) (found finished : List α) : Prop where
  found_iff {v : α} : v ∈ found ↔ v ∈ finished ∨ .leave v ∈ visits
  nodup : (finished ++ visits.filterMap Visit.left?).Nodup
  above : visits.Pairwise fun visit visit' =>
    ∀ u, visit' = .leave u → TransGen g.Precedes u visit.node
  /-- Nothing after a node is forgotten while the node is not left. -/
  pending (before : List (Visit α)) {after : List (Visit α)} {u w : α} : visits = before ++ .leave u :: after →
    g.Precedes u w → w ∈ finished ∨ (∃ visit ∈ before, visit.node = w) ∨ TransGen g.Precedes w u
  ordered : g.Ordered finished

namespace Exploring

variable {visits : List (Visit α)} {found finished : List α} {v : α}

omit [DecidableEq α] in
theorem leave (h : g.Exploring (.leave v :: visits) found finished) :
    g.Exploring visits found (v :: finished) := by
  have hpending : ∀ w, g.Precedes v w → w ∈ finished ∨ TransGen g.Precedes w v := by
    intro w hw
    rcases h.pending [] rfl hw with hf | ⟨_, hb, _⟩ | hback
    · exact Or.inl hf
    · cases hb
    · exact Or.inr hback
  refine ⟨?_, ?_, (List.pairwise_cons.1 h.above).2, ?_, ?_⟩
  · intro w
    rw [h.found_iff]
    simp only [List.mem_cons, Visit.leave.injEq]
    rw [or_left_comm, or_assoc]
  · have hd := h.nodup
    rw [List.filterMap_cons_some (f := Visit.left?) rfl] at hd
    exact (List.perm_middle.nodup_iff).1 hd
  · intro before after u w hsplit hw
    rcases h.pending (.leave v :: before) (by rw [hsplit]; rfl) hw with
      hf | ⟨visit, hb, rfl⟩ | hback
    · exact Or.inl (List.mem_cons_of_mem _ hf)
    · rcases List.mem_cons.1 hb with rfl | hb
      · exact Or.inl List.mem_cons_self
      · exact Or.inr (Or.inl ⟨visit, hb, rfl⟩)
    · exact Or.inr (Or.inr hback)
  · intro before u after hsplit w hw
    cases before with
    | nil =>
      cases hsplit
      exact hpending w hw
    | cons u' before =>
      cases hsplit
      exact h.ordered _ _ _ rfl w hw

omit [DecidableEq α] in
/-- What has been found before is finished, or leads to all that lies on its leave. -/
theorem finished_or_transGen (h : g.Exploring (.enter v :: visits) found finished) {w : α}
    (hw : w ∈ found) : w ∈ finished ∨ TransGen g.Precedes w v := by
  rcases h.found_iff.1 hw with hf | hl
  · exact Or.inl hf
  · rcases List.mem_cons.1 hl with he | hl
    · cases he
    · exact Or.inr ((List.pairwise_cons.1 h.above).1 _ hl w rfl)

omit [DecidableEq α] in
theorem skip (h : g.Exploring (.enter v :: visits) found finished) (hv : v ∈ found) :
    g.Exploring visits found finished := by
  refine ⟨?_, h.nodup, (List.pairwise_cons.1 h.above).2, ?_, h.ordered⟩
  · intro w
    rw [h.found_iff]
    simp
  · intro before after u w hsplit hw
    rcases h.pending (.enter v :: before) (by rw [hsplit]; rfl) hw with
      hf | ⟨visit, hb, rfl⟩ | hback
    · exact Or.inl hf
    · rcases List.mem_cons.1 hb with rfl | hb
      -- the visit that is given up was for a node that is finished or is left first, or for one
      -- that leads to all that is above it
      · rcases h.found_iff.1 hv with hf | hl
        · exact Or.inl hf
        · have hl : .leave v ∈ before ++ .leave u :: after := by simpa [hsplit] using hl
          rcases List.mem_append.1 hl with hl | hl
          · exact Or.inr (Or.inl ⟨_, hl, rfl⟩)
          · rcases List.mem_cons.1 hl with he | hl
            · cases he
              exact Or.inr (Or.inr (.single hw))
            · have habove := (List.pairwise_cons.1 h.above).2
              rw [hsplit] at habove
              have hbelow := (List.pairwise_append.1 habove).2.1
              exact Or.inr (Or.inr ((List.pairwise_cons.1 hbelow).1 _ hl v rfl))
      · exact Or.inr (Or.inl ⟨visit, hb, rfl⟩)
    · exact Or.inr (Or.inr hback)

theorem enter (h : g.Exploring (.enter v :: visits) found finished) (hv : v ∉ found) :
    g.Exploring ((((g.successors v).filter fun w => w ∉ v :: found).reverse.map .enter) ++
      .leave v :: visits) (v :: found) finished := by
  generalize hnext : ((g.successors v).filter fun w => w ∉ v :: found).reverse = next
  have hmem : ∀ w, w ∈ next ↔ g.Precedes v w ∧ w ∉ v :: found := by
    intro w
    rw [← hnext, List.mem_reverse, List.mem_filter, mem_successors]
    simp
  have habove := List.pairwise_cons.1 h.above
  refine ⟨?_, ?_, ?_, ?_, h.ordered⟩
  · intro w
    rw [List.mem_cons, h.found_iff]
    simp [eq_comm, or_left_comm]
  · have hd : (v :: (finished ++ visits.filterMap Visit.left?)).Nodup := by
      refine List.nodup_cons.2 ⟨fun hm => hv ?_, h.nodup⟩
      rw [h.found_iff]
      rcases List.mem_append.1 hm with hf | hl
      · exact Or.inl hf
      · exact Or.inr (List.mem_cons_of_mem _ (mem_filterMap_left?.1 hl))
    rw [List.filterMap_append, filterMap_left?_map_enter, List.nil_append,
      List.filterMap_cons_some (f := Visit.left?) rfl]
    exact (List.perm_middle.nodup_iff).2 hd
  · rw [List.pairwise_append]
    refine ⟨?_, List.pairwise_cons.2 ⟨habove.1, habove.2⟩, ?_⟩
    · rw [List.pairwise_map]
      exact List.pairwise_of_forall fun _ _ _ he => by cases he
    · rintro _ hnew visit' hm u rfl
      obtain ⟨w, hw, rfl⟩ := List.mem_map.1 hnew
      have hstep := ((hmem w).1 hw).1
      rcases List.mem_cons.1 hm with he | hm
      · cases he
        exact .single hstep
      · exact (habove.1 _ hm u rfl).tail hstep
  · intro before after u w hsplit hw
    rcases eq_or_exists_of_map_enter_append hsplit with ⟨rfl, rfl⟩ | ⟨rest, rfl, hrest⟩
    · by_cases hf : w ∈ u :: found
      · rcases List.mem_cons.1 hf with rfl | hf
        · exact Or.inr (Or.inr (.single hw))
        · rcases h.finished_or_transGen hf with hf | hback
          · exact Or.inl hf
          · exact Or.inr (Or.inr hback)
      · exact Or.inr (Or.inl ⟨_, List.mem_map_of_mem ((hmem w).2 ⟨hw, hf⟩), rfl⟩)
    -- for a node that was entered before, the visit on top has become a leave
    · rcases h.pending (.enter v :: rest) (by rw [hrest]; rfl) hw with
        hf | ⟨visit, hb, rfl⟩ | hback
      · exact Or.inl hf
      · rcases List.mem_cons.1 hb with rfl | hb
        · exact Or.inr (Or.inl ⟨.leave v, by simp, rfl⟩)
        · exact Or.inr (Or.inl ⟨visit, by simp [hb], rfl⟩)
      · exact Or.inr (Or.inr hback)

end Exploring

/-! ### The search -/

/-- A search that ends early has found a node that is before itself. -/
theorem exploring_search {visits : List (Visit α)} {found finished : List α}
    (h : g.Exploring visits found finished) :
    match g.search visits found finished with
    | .ok (found', finished') => g.Exploring [] found' finished'
    | .error v => g.Precedes v v := by
  induction visits, found, finished using search.induct g with
  | case1 found finished =>
    rw [search]
    exact h
  | case2 found finished v visits ih =>
    rw [search]
    exact ih h.leave
  | case3 found finished v visits hv ih =>
    rw [search, dif_pos hv]
    exact ih (h.skip hv)
  | case4 found finished v visits hv hloop =>
    rw [search, dif_neg hv, if_pos hloop]
    exact mem_successors.1 hloop
  | case5 found finished v visits hv hloop next ih =>
    rw [search, dif_neg hv, if_neg hloop]
    exact ih (h.enter hv)

omit [DecidableEq α] in
theorem Exploring.start {found finished : List α} (h : g.Exploring [] found finished) (v : α) :
    g.Exploring [.enter v] found finished := by
  refine ⟨?_, h.nodup, List.pairwise_singleton .., ?_, h.ordered⟩
  · intro w
    rw [h.found_iff]
    simp
  · intro before after u w hsplit
    rcases before with _ | ⟨visit, before⟩
    · cases hsplit
    · simp at hsplit

theorem exploring_searchAll {todo found finished : List α} (h : g.Exploring [] found finished) :
    match g.searchAll todo found finished with
    | .ok order => order.Nodup ∧ g.Ordered order
    | .error v => g.Precedes v v := by
  induction todo generalizing found finished with
  | nil =>
    have hd := h.nodup
    rw [List.filterMap_nil, List.append_nil] at hd
    exact ⟨hd, h.ordered⟩
  | cons v todo ih =>
    have hs := exploring_search (h.start v)
    unfold searchAll
    generalize g.search [.enter v] found finished = result at hs
    rcases result with w | ⟨found', finished'⟩
    · exact hs
    · exact ih hs

/-- **The order puts each node in front of those after it**, as far as they do not lead back to it. -/
theorem ordered_finishOrder (g : Precedence α) :
    match g.finishOrder with
    | .ok order => order.Nodup ∧ g.Ordered order
    | .error v => g.Precedes v v := by
  refine exploring_searchAll ⟨?_, List.nodup_nil, List.Pairwise.nil, ?_, ?_⟩
  · simp
  · intro before after u w hsplit
    simp at hsplit
  · intro before v after hsplit
    simp at hsplit

/-! ### The check of the order -/

/-- A late node comes directly before one that it does not stand in front of. -/
theorem exists_of_firstLate?_eq_some {seen order : List α} {w : α}
    (h : g.firstLate? seen order = some w) :
    w ∉ seen ∧ ∃ before v after, order = before ++ v :: after ∧ g.Precedes w v ∧ w ≠ v ∧
      w ∉ before := by
  induction order generalizing seen with
  | nil => cases h
  | cons v order ih =>
    rw [firstLate?] at h
    split at h
    case h_1 late hlate =>
      obtain rfl := Option.some.inj h
      obtain ⟨hp, hnot⟩ := List.mem_filter.1 (List.mem_of_getLast? hlate)
      simp only [List.mem_cons, not_or, decide_eq_true_eq] at hnot
      exact ⟨hnot.2, [], v, order, rfl, mem_predecessors.1 hp, hnot.1, List.not_mem_nil⟩
    case h_2 =>
      obtain ⟨hnot, before, u, after, rfl, hp, hne, hb⟩ := ih h
      rw [List.mem_cons, not_or] at hnot
      exact ⟨hnot.2, v :: before, u, after, rfl, hp, hne, by simp [hnot.1, hb]⟩

/-- **A culprit leads back to itself.** -/
theorem transGen_of_culprit?_eq_some (hg : ∀ v w, g.Precedes v w → v ∈ g.nodes) {w : α}
    (h : g.culprit? = some w) : TransGen g.Precedes w w := by
  have hsearched := g.ordered_finishOrder
  unfold culprit? at h
  split at h
  case h_1 v hv =>
    obtain rfl := Option.some.inj h
    rw [hv] at hsearched
    exact .single hsearched
  case h_2 order horder =>
    rw [horder] at hsearched
    obtain ⟨hd, hordered⟩ := hsearched
    obtain ⟨-, before, v, after, rfl, hp, hne, hb⟩ := exists_of_firstLate?_eq_some h
    -- the late node stands behind the one it comes before, which so leads to it
    have hw : w ∈ before ++ v :: after := (finishOrder_spec horder (hg _ _ hp)).1
    have hafter : w ∈ after := by
      rcases List.mem_append.1 hw with hw | hw
      · exact absurd hw hb
      · exact (List.mem_cons.1 hw).resolve_left hne
    obtain ⟨between, rest, rfl⟩ := List.append_of_mem hafter
    have hsplit : before ++ v :: (between ++ w :: rest) = (before ++ v :: between) ++ w :: rest := by
      simp
    rcases hordered _ _ _ hsplit v hp with hv | hback
    · rw [hsplit] at hd
      have hdisjoint := (List.nodup_append.1 hd).2.2
      exact absurd rfl (hdisjoint v (by simp) v (List.mem_cons_of_mem _ hv))
    · exact .head hp hback

/-- **There is a culprit just where something leads back to itself.** -/
theorem culprit?_eq_none_iff (hg : ∀ v w, g.Precedes v w → v ∈ g.nodes ∧ w ∈ g.nodes) :
    g.culprit? = none ↔ ∀ v, ¬TransGen g.Precedes v v := by
  constructor
  · intro h v
    exact not_transGen_of_culprit?_eq_none (fun v w hp => (hg v w hp).2) h v
  · intro hacyclic
    cases h : g.culprit? with
    | none => rfl
    | some w =>
      exact absurd (transGen_of_culprit?_eq_some (fun v w hp => (hg v w hp).1) h) (hacyclic w)

end Rewinding.Precedence
