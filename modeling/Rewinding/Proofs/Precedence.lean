import Rewinding.Precedence

/-!
# No culprit, no cycle

Where `culprit?` finds nothing, no node leads back to itself. The search is needed for one thing
only: that its order leaves out no node that can be on a cycle (`Searched`). All the rest is read off
the order, in which everything before a node has come by when the node does.
-/

namespace Rewinding.Precedence

variable {α : Type} [DecidableEq α] {g : Precedence α}

/-- `v` comes directly before `w`. -/
def Precedes (g : Precedence α) (v w : α) : Prop := (v, w) ∈ g.edges

theorem mem_successors {v w : α} : w ∈ g.successors v ↔ g.Precedes v w := by
  simp [successors, Precedes]

theorem mem_predecessors {v w : α} : v ∈ g.predecessors w ↔ g.Precedes v w := by
  simp [predecessors, Precedes]

/-! ### The search -/

/-- Where a search stands: a node that was found is not before itself, and has been left unless its
leave is still among the `visits`. -/
structure Searched (g : Precedence α) (visits : List (Visit α)) (found finished : List α) : Prop where
  loopless {v : α} : v ∈ found → ¬g.Precedes v v
  left {v : α} : v ∈ found → v ∈ finished ∨ .leave v ∈ visits

/-- A search that is not ended early finds what it was to enter and leaves all that it found. -/
theorem searched_search {visits : List (Visit α)} {found finished found' finished' : List α}
    (h : g.search visits found finished = .ok (found', finished'))
    (hs : g.Searched visits found finished) :
    g.Searched [] found' finished' ∧ ∀ v, v ∈ found ∨ .enter v ∈ visits → v ∈ found' := by
  induction visits, found, finished using search.induct g with
  | case1 found finished =>
    rw [search] at h
    cases h
    refine ⟨hs, ?_⟩
    rintro v (hv | hv)
    · exact hv
    · cases hv
  -- `v` is left for good, and moves from the visits to the finished nodes
  | case2 found finished v visits ih =>
    rw [search] at h
    have hleft : ∀ w ∈ found, w ∈ v :: finished ∨ .leave w ∈ visits := by
      intro w hw
      obtain hw | hw := hs.left hw
      · exact Or.inl (List.mem_cons_of_mem _ hw)
      · obtain hw | hw := List.mem_cons.1 hw
        · cases hw
          exact Or.inl List.mem_cons_self
        · exact Or.inr hw
    obtain ⟨hs', hin⟩ := ih h ⟨hs.loopless, hleft _⟩
    refine ⟨hs', fun w hw => hin w ?_⟩
    simpa using hw
  | case3 found finished v visits hv ih =>
    rw [search, dif_pos hv] at h
    obtain ⟨hs', hin⟩ := ih h ⟨hs.loopless, fun hw => by simpa using hs.left hw⟩
    refine ⟨hs', fun w hw => hin w ?_⟩
    obtain hw | hw := hw
    · exact Or.inl hw
    · obtain hw | hw := List.mem_cons.1 hw
      · cases hw
        exact Or.inl hv
      · exact Or.inr hw
  | case4 found finished v visits hv hloop =>
    rw [search, dif_neg hv, if_pos hloop] at h
    cases h
  -- `v` is found, and its leave is put among the visits
  | case5 found finished v visits hv hloop next ih =>
    rw [search, dif_neg hv, if_neg hloop] at h
    have hloopless : ∀ w ∈ v :: found, ¬g.Precedes w w := by
      intro w hw
      obtain rfl | hw := List.mem_cons.1 hw
      · exact fun hp => hloop (mem_successors.2 hp)
      · exact hs.loopless hw
    have hleft : ∀ w ∈ v :: found, w ∈ finished ∨
        .leave w ∈ next.reverse.map Visit.enter ++ .leave v :: visits := by
      intro w hw
      obtain rfl | hw := List.mem_cons.1 hw
      · exact Or.inr (List.mem_append_right _ List.mem_cons_self)
      · obtain hw | hw := hs.left hw
        · exact Or.inl hw
        · obtain hw | hw := List.mem_cons.1 hw
          · cases hw
          · exact Or.inr (List.mem_append_right _ (List.mem_cons_of_mem _ hw))
    obtain ⟨hs', hin⟩ := ih h ⟨hloopless _, hleft _⟩
    refine ⟨hs', fun w hw => hin w ?_⟩
    obtain hw | hw := hw
    · exact Or.inl (List.mem_cons_of_mem _ hw)
    · obtain hw | hw := List.mem_cons.1 hw
      · cases hw
        exact Or.inl List.mem_cons_self
      · exact Or.inr (List.mem_append_right _ (List.mem_cons_of_mem _ hw))

theorem searched_searchAll {todo found finished order : List α}
    (h : g.searchAll todo found finished = .ok order) (hs : g.Searched [] found finished) :
    ∃ found', g.Searched [] found' order ∧ ∀ v, v ∈ found ∨ v ∈ todo → v ∈ found' := by
  induction todo generalizing found finished with
  | nil =>
    cases h
    refine ⟨found, hs, ?_⟩
    rintro v (hv | hv)
    · exact hv
    · cases hv
  | cons v todo ih =>
    unfold searchAll at h
    split at h
    case h_1 => cases h
    case h_2 found₁ finished₁ hsearch =>
      have hstart : g.Searched [.enter v] found finished :=
        ⟨hs.loopless, fun hw => by simpa using hs.left hw⟩
      obtain ⟨hs₁, hin₁⟩ := searched_search hsearch hstart
      obtain ⟨found', hs', hin⟩ := ih h hs₁
      refine ⟨found', hs', fun w hw => ?_⟩
      obtain hw | hw := hw
      · exact hin w (Or.inl (hin₁ w (Or.inl hw)))
      · obtain rfl | hw := List.mem_cons.1 hw
        · exact hin w (Or.inl (hin₁ w (Or.inr List.mem_cons_self)))
        · exact hin w (Or.inr hw)

/-- Every node is in the order, and none is before itself. -/
theorem finishOrder_spec {order : List α} (h : g.finishOrder = .ok order) {v : α} (hv : v ∈ g.nodes) :
    v ∈ order ∧ ¬g.Precedes v v := by
  obtain ⟨found, hs, hin⟩ := searched_searchAll h ⟨nofun, nofun⟩
  have hfound := hin v (Or.inr hv)
  refine ⟨?_, hs.loopless hfound⟩
  obtain hv | hv := hs.left hfound
  · exact hv
  · cases hv

/-! ### The order -/

/-- Where nothing is late, what is before a node has come by. -/
theorem mem_of_firstLate?_eq_none {seen before after : List α} {v w : α}
    (h : g.firstLate? seen (before ++ v :: after) = none) (hw : g.Precedes w v) :
    w = v ∨ w ∈ before ∨ w ∈ seen := by
  induction before generalizing seen with
  | nil =>
    rw [List.nil_append, firstLate?] at h
    split at h
    case h_1 => cases h
    case h_2 hlate =>
      rw [List.getLast?_eq_none_iff, List.filter_eq_nil_iff] at hlate
      have hseen : w ∈ v :: seen := by
        apply Decidable.byContradiction
        intro hn
        exact hlate w (mem_predecessors.2 hw) (decide_eq_true hn)
      obtain rfl | hs := List.mem_cons.1 hseen
      · exact Or.inl rfl
      · exact Or.inr (Or.inr hs)
  | cons u before ih =>
    rw [List.cons_append, firstLate?] at h
    split at h
    case h_1 => cases h
    case h_2 =>
      obtain rfl | hb | hs := ih h
      · exact Or.inl rfl
      · exact Or.inr (Or.inl (List.mem_cons_of_mem _ hb))
      · obtain rfl | hs := List.mem_cons.1 hs
        · exact Or.inr (Or.inl List.mem_cons_self)
        · exact Or.inr (Or.inr hs)

/-- Each node has an earlier place than those it comes before. -/
theorem idxOf_lt_idxOf {order : List α} (h : g.firstLate? [] order = none) {v w : α}
    (hp : g.Precedes w v) (hne : w ≠ v) (hv : v ∈ order) : order.idxOf w < order.idxOf v := by
  -- what is seen at the first place of `v` is what stands in front of it
  obtain ⟨before, after, rfl, hfirst⟩ := List.eq_append_cons_of_mem hv
  have hw : w ∈ before := by
    obtain rfl | hb | hs := mem_of_firstLate?_eq_none h hp
    · exact absurd rfl hne
    · exact hb
    · cases hs
  rw [List.idxOf_append, if_pos hw, List.idxOf_append, if_neg hfirst, List.idxOf_cons_self]
  exact Nat.lt_of_lt_of_le (List.idxOf_lt_length_of_mem hw) (Nat.le_add_left _ _)

/-- **Where there is no culprit, nothing leads back to itself.** -/
theorem not_transGen_of_culprit?_eq_none (hg : ∀ v w, g.Precedes v w → w ∈ g.nodes)
    (h : g.culprit? = none) (v : α) : ¬Relation.TransGen g.Precedes v v := by
  unfold culprit? at h
  split at h
  case h_1 => cases h
  case h_2 order horder =>
    -- places in the order grow along every path
    have hrank : ∀ a b, Relation.TransGen g.Precedes a b → order.idxOf a < order.idxOf b := by
      intro a b hab
      have hstep : ∀ a b, g.Precedes a b → order.idxOf a < order.idxOf b := by
        intro a b hab
        obtain ⟨hmem, hloop⟩ := finishOrder_spec horder (hg a b hab)
        refine idxOf_lt_idxOf h hab ?_ hmem
        rintro rfl
        exact hloop hab
      induction hab with
      | single hab => exact hstep _ _ hab
      | tail _ hbc ih => exact Nat.lt_trans ih (hstep _ _ hbc)
    intro hv
    exact Nat.lt_irrefl _ (hrank v v hv)

end Rewinding.Precedence
