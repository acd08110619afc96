import Rewinding.Proofs.Running

/-!
# What a walk finds

Which artifacts and actions a lost artifact needs is said without a queue: `Queries.Needs` is the
least relation that follows producers, and inputs of actions that pass them on. A walk keeps two
invariants against it, one for each direction:

* `Builder.Grounded`: nothing in the plan but what is needed, or wanted along with an action that is;
* `Builder.Covers`, `Builder.Settles`: an artifact that was spread to, and an action that was taken
  off the queue, lead to nothing that is not marked.

`yields_rewindAll` says both of the finished plan. They leave one gap, which is not the walk's to
close: a needed action whose node some other action wants restarted along may be marked without
being noted.
-/

namespace Rewinding

variable {known : List Action} {σ : Type}

/-- The artifacts and actions needed to make the `lost` artifacts again, for a failed action that
will be retried anyway. -/
inductive Queries.Needs (q : Queries known) (failed : ActionKey) (lost : List Artifact) :
    Artifact ⊕ ActionKey → Prop where
  | lost {a : Artifact} : a ∈ lost → q.Needs failed lost (.inl a)
  | producer {a : Artifact} {producers : Producers} {k : ActionKey} : q.Needs failed lost (.inl a) →
      q.discover a = .ok (some producers) → k ∈ producers.keys → q.Needs failed lost (.inr k)
  | input {k : ActionKey} {action : { a : Action // a ∈ known }} {i : Artifact} :
      q.Needs failed lost (.inr k) → k ≠ failed → q.lookup k = .ok action → action.1.propagates →
      i ∈ action.1.derivedInputs → q.Needs failed lost (.inl i)

/-- Every action is found under its own key. -/
def Queries.Keyed (q : Queries known) : Prop := ∀ k action, q.lookup k = .ok action → action.1.key = k

/-- Why a walk ends early: the build was cancelled, or a query about something needed was answered by
a failure. -/
inductive Queries.Faulty (q : Queries known) (failed : ActionKey) (lost : List Artifact) : Stop → Prop
  where
  | cancelled : q.cancelled → q.Faulty failed lost (.failure .interrupted)
  | undiscovered {a : Artifact} {failure : Failure} : q.Needs failed lost (.inl a) →
      q.discover a = .error failure → q.Faulty failed lost (.failure failure)
  | unfound {k : ActionKey} {failure : Failure} : q.Needs failed lost (.inr k) →
      q.lookup k = .error failure → q.Faulty failed lost (.failure failure)

/-- The nodes that an action wants restarted along with itself. -/
def Action.wanted (a : Action) : List Node := a.rewindDeps.getD []

namespace Builder

/-! ### Plans that grow -/

theorem mem_nodes_plan {b : Builder} {n : Node} :
    n ∈ b.plan.restart.nodes ↔ n = .action b.failed ∨ n ∈ b.marked := by
  simp only [Builder.plan, Restart.of, Restart.nodes, List.mem_cons, Std.ExtTreeSet.mem_toList,
    Std.ExtTreeSet.mem_erase, Std.LawfulEqCmp.compare_eq_iff_eq, ne_eq]
  constructor
  · rintro (rfl | ⟨-, h⟩)
    · exact Or.inl rfl
    · exact Or.inr h
  · rintro (rfl | h)
    · exact Or.inl rfl
    · by_cases he : n = .action b.failed
      · exact Or.inl he
      · exact Or.inr ⟨fun h => he h.symm, h⟩

/-- `b'` comes from `b` by marking nodes and noting the actions `fresh`. -/
structure Extends (b b' : Builder) (fresh : List Action) : Prop where
  failed : b'.failed = b.failed
  marked {n : Node} : n ∈ b.marked → n ∈ b'.marked
  noted : b'.noted = b.noted ++ fresh

theorem Extends.refl (b : Builder) : b.Extends b [] := ⟨rfl, id, (List.append_nil _).symm⟩

theorem Extends.trans {b b' b'' : Builder} {fresh fresh' : List Action} (h : b.Extends b' fresh)
    (h' : b'.Extends b'' fresh') : b.Extends b'' (fresh ++ fresh') where
  failed := h'.failed.trans h.failed
  marked hn := h'.marked (h.marked hn)
  noted := by rw [h'.noted, h.noted, List.append_assoc]

theorem extends_mark (b : Builder) (node : Node) : b.Extends (b.mark node) [] where
  failed := rfl
  marked hn := mem_mark.2 (Or.inr hn)
  noted := (List.append_nil _).symm

theorem mem_markAll {b : Builder} {nodes : List Node} {n : Node} :
    n ∈ (b.markAll nodes).marked ↔ n ∈ nodes ∨ n ∈ b.marked := by
  unfold markAll
  induction nodes generalizing b with
  | nil => simp
  | cons m ms ih =>
    rw [List.foldl_cons, ih, mem_mark, List.mem_cons]
    constructor
    · rintro (h | rfl | h)
      · exact Or.inl (Or.inr h)
      · exact Or.inl (Or.inl rfl)
      · exact Or.inr h
    · rintro ((rfl | h) | h)
      · exact Or.inr (Or.inl rfl)
      · exact Or.inl h
      · exact Or.inr (Or.inr h)

theorem extends_markAll (b : Builder) (nodes : List Node) : b.Extends (b.markAll nodes) [] := by
  unfold markAll
  induction nodes generalizing b with
  | nil => exact Extends.refl b
  | cons n ns ih => exact (b.extends_mark n).trans (ih (b.mark n))

theorem note_of_notMem {b : Builder} {action : Action} (h : action.node ∉ b.marked) :
    b.note action = { b.mark action.node with noted := b.noted ++ [action] } :=
  if_pos (isNew_iff.2 h)

theorem extends_note {b : Builder} {action : Action} (h : action.node ∉ b.marked) :
    b.Extends (b.note action) [action] := by
  rw [note_of_notMem h]
  exact ⟨rfl, fun hn => mem_mark.2 (Or.inr hn), rfl⟩

theorem mem_marked_note {b : Builder} {action : Action} {n : Node} :
    n ∈ (b.note action).marked ↔ action.node = n ∨ n ∈ b.marked := by
  unfold note
  split
  case isTrue h => exact mem_mark
  case isFalse h =>
    have hm : action.node ∈ b.marked := not_isNew_iff.1 h
    constructor
    · exact Or.inr
    · rintro (rfl | hn)
      · exact hm
      · exact hn

/-! ### Nothing that is not needed -/

/-- Only what is needed is in the plan: the node of the failed action, those of needed artifacts and
of noted actions, and what the noted actions want restarted along. No action is noted twice. -/
structure Grounded (q : Queries known) (lost : List Artifact) (b : Builder) : Prop where
  failed : .action b.failed ∈ b.marked
  marked {n : Node} : n ∈ b.marked → n = .action b.failed ∨
    (∃ a, q.Needs b.failed lost (.inl a) ∧ n = a.node) ∨
    ∃ action ∈ b.noted, n = action.node ∨ n ∈ action.wanted
  noted {action : Action} : action ∈ b.noted → action.node ∈ b.marked ∧ action.key ≠ b.failed ∧
    q.Needs b.failed lost (.inr action.key) ∧ ∃ h, q.lookup action.key = .ok ⟨action, h⟩
  nodup : (b.noted.map Action.key).Nodup

variable {q : Queries known} {lost : List Artifact}

theorem grounded_start (failed : ActionKey) : (start failed).Grounded q lost where
  failed := by simp [start]
  marked {n} hn := by
    have he : Node.action failed = n := by simpa [start] using hn
    exact Or.inl he.symm
  noted h := by simp [start] at h
  nodup := by simp [start]

theorem Grounded.mark {b : Builder} (h : b.Grounded q lost) {a : Artifact}
    (ha : q.Needs b.failed lost (.inl a)) : (b.mark a.node).Grounded q lost where
  failed := mem_mark.2 (Or.inr h.failed)
  marked hn := by
    obtain rfl | hn := mem_mark.1 hn
    · exact Or.inr (Or.inl ⟨a, ha, rfl⟩)
    · exact h.marked hn
  noted hm := by
    obtain ⟨hm, rest⟩ := h.noted hm
    exact ⟨mem_mark.2 (Or.inr hm), rest⟩
  nodup := h.nodup

theorem Grounded.markAll {b : Builder} (h : b.Grounded q lost) {action : Action}
    (ha : action ∈ b.noted) : (b.markAll action.wanted).Grounded q lost := by
  have hx := b.extends_markAll action.wanted
  have hnoted : (b.markAll action.wanted).noted = b.noted := hx.noted.trans (List.append_nil _)
  constructor
  · rw [hx.failed]
    exact hx.marked h.failed
  · intro n hn
    rw [hx.failed, hnoted]
    obtain hn | hn := mem_markAll.1 hn
    · exact Or.inr (Or.inr ⟨action, ha, Or.inr hn⟩)
    · exact h.marked hn
  · intro other ho
    rw [hnoted] at ho
    obtain ⟨hm, rest⟩ := h.noted ho
    rw [hx.failed]
    exact ⟨hx.marked hm, rest⟩
  · rw [hnoted]
    exact h.nodup

theorem Grounded.note {b : Builder} (h : b.Grounded q lost) {action : Action}
    (hm : action.node ∉ b.marked) (ha : q.Needs b.failed lost (.inr action.key))
    (hk : ∃ h, q.lookup action.key = .ok ⟨action, h⟩) : (b.note action).Grounded q lost := by
  have hne : action.key ≠ b.failed := by
    intro he
    apply hm
    rw [Action.node, he]
    exact h.failed
  rw [note_of_notMem hm]
  refine ⟨mem_mark.2 (Or.inr h.failed), fun hn => ?_, fun hn => ?_, ?_⟩
  · obtain rfl | hn := mem_mark.1 hn
    · exact Or.inr (Or.inr ⟨action, by simp, Or.inl rfl⟩)
    obtain rfl | hn | ⟨other, ho, hn⟩ := h.marked hn
    · exact Or.inl rfl
    · exact Or.inr (Or.inl hn)
    · exact Or.inr (Or.inr ⟨other, List.mem_append_left _ ho, hn⟩)
  · obtain hn | hn := List.mem_append.1 hn
    · obtain ⟨hm, rest⟩ := h.noted hn
      exact ⟨mem_mark.2 (Or.inr hm), rest⟩
    · obtain rfl := List.mem_singleton.1 hn
      exact ⟨mem_mark.2 (Or.inl rfl), hne, ha, hk⟩
  · rw [List.map_append, List.nodup_append]
    refine ⟨h.nodup, by simp, ?_⟩
    rintro k hk' k' hk'' rfl
    obtain ⟨other, ho, rfl⟩ := List.mem_map.1 hk'
    obtain ⟨_, hx, he⟩ := List.mem_map.1 hk''
    obtain rfl := List.mem_singleton.1 hx
    -- the key is on the list already, so the node is marked
    apply hm
    rw [Action.node, he]
    exact (h.noted ho).1

/-- A marked action that is neither the failed one nor noted is wanted along by one that is. -/
theorem Grounded.marked_action {b : Builder} (h : b.Grounded q lost) {k : ActionKey}
    (hk : .action k ∈ b.marked) : k = b.failed ∨ (∃ action ∈ b.noted, action.key = k) ∨
      ∃ action ∈ b.noted, .action k ∈ action.wanted := by
  obtain he | ⟨a, -, he⟩ | ⟨action, ha, he | he⟩ := h.marked hk
  · exact Or.inl (Node.action.inj he)
  · cases he
  · exact Or.inr (Or.inl ⟨action, ha, (Node.action.inj he).symm⟩)
  · exact Or.inr (Or.inr ⟨action, ha, he⟩)

/-! ### Nothing that is missed -/

/-- The artifact and the actions that make it are marked. -/
structure Covers (q : Queries known) (b : Builder) (a : Artifact) : Prop where
  node : a.node ∈ b.marked
  producers {producers : Producers} {k : ActionKey} : q.discover a = .ok (some producers) →
    k ∈ producers.keys → .action k ∈ b.marked

/-- What the action wants restarted along is marked and, if it passes its inputs on, these are
covered. -/
structure Settles (q : Queries known) (b : Builder) (action : Action) : Prop where
  wanted {n : Node} : n ∈ action.wanted → n ∈ b.marked
  inputs {i : Artifact} : action.propagates → i ∈ action.derivedInputs → b.Covers q i

theorem Covers.mono {b b' : Builder} {fresh : List Action} {a : Artifact} (h : b.Covers q a)
    (hx : b.Extends b' fresh) : b'.Covers q a where
  node := hx.marked h.node
  producers hp hk := hx.marked (h.producers hp hk)

theorem Settles.mono {b b' : Builder} {fresh : List Action} {action : Action}
    (h : b.Settles q action) (hx : b.Extends b' fresh) : b'.Settles q action where
  wanted hn := hx.marked (h.wanted hn)
  inputs hp hi := (h.inputs hp hi).mono hx

end Builder

/-! ## The walk, part by part -/

namespace Walk

open Builder

variable {world : World known σ} {calm : σ → Prop} {q : Queries known} {lost : List Artifact}

/-! ### A walk only asks -/

section Asks

variable {usual : Failure → Prop} (hi : usual .interrupted)
include hi

theorem inquires_lookupAll (keys : List ActionKey) : Inquires usual (Stop.Usual usual)
    (lookupAll keys : Attempt known (List { a : Action // a ∈ known })) := by
  induction keys with
  | nil => exact .pure _
  | cons k keys ih =>
    unfold lookupAll
    exact .bind (.checkInterrupt hi) fun _ => .bind (.lookup k) fun _ => .bind ih fun _ => .pure _

theorem inquires_producersOf (a : Artifact) : Inquires usual (Stop.Usual usual)
    (producersOf a : Attempt known (Option (List { a : Action // a ∈ known }))) := by
  unfold producersOf
  refine .bind (.checkInterrupt hi) fun _ => .bind (.discover a) fun found => ?_
  cases found with
  | none => exact .pure _
  | some producers => exact .bind (inquires_lookupAll hi _) fun _ => .pure _

theorem inquires_spread (b : Builder) (a : Artifact) : Inquires usual (fun e => e.1.Usual usual)
    (spread b a : Walk known (Spread known b)) := by
  unfold spread
  refine .bind (.within _ (inquires_producersOf hi a)) fun found => ?_
  cases found <;> exact .pure _

theorem inquires_spreadAll (b : Builder) (artifacts : List Artifact) :
    Inquires usual (fun e => e.1.Usual usual)
      (spreadAll b artifacts : Walk known (Spread known b)) := by
  induction artifacts generalizing b with
  | nil => exact .pure _
  | cons a artifacts ih =>
    unfold spreadAll
    exact .bind (inquires_spread hi b a) fun s => .bind (ih s.builder) fun _ => .pure _

theorem inquires_visitAll (b : Builder) (queue : List { a : Action // a ∈ known }) :
    Inquires usual (fun e => e.1.Usual usual) (visitAll b queue) := by
  induction b, queue using visitAll.induct with
  | case1 b =>
    rw [visitAll]
    exact .pure _
  | case2 b action queue ihSpread ihMarked =>
    rw [visitAll]
    refine .bind (.within _ (.checkInterrupt hi)) fun _ => ?_
    by_cases hp : action.1.propagates
    case pos =>
      simp only [hp, if_true]
      exact .bind (inquires_spreadAll hi _ _) fun s => ihSpread s
    case neg =>
      simp only [hp]
      exact ihMarked

theorem inquires_rewindAll (b : Builder) (artifacts : List Artifact) :
    Inquires usual (fun e => e.1.Usual usual) (rewindAll b artifacts : Walk known Builder) := by
  induction artifacts generalizing b with
  | nil => exact .pure _
  | cons a artifacts ih =>
    unfold rewindAll rewind
    exact .bind (.bind (inquires_spread hi b a) fun s => inquires_visitAll hi _ _) fun b' => ih b'

end Asks

/-! ### What it finds -/

/-- The plan `b'` holds what `b` does, the actions `fresh` are new to it, and still nothing is in it
that is not needed. -/
structure Advance (q : Queries known) (lost : List Artifact) (b b' : Builder)
    (fresh : List { a : Action // a ∈ known }) : Prop where
  grows : b.Extends b' (fresh.map Subtype.val)
  grounded : b'.Grounded q lost

theorem Advance.trans {b b' b'' : Builder} {fresh fresh' : List { a : Action // a ∈ known }}
    (h : Advance q lost b b' fresh) (h' : Advance q lost b' b'' fresh') :
    Advance q lost b b'' (fresh ++ fresh') where
  grows := by
    rw [List.map_append]
    exact h.grows.trans h'.grows
  grounded := h'.grounded

/-- Noting actions that are needed marks the nodes of all of them. -/
theorem advance_noteAll {b : Builder} (hb : b.Grounded q lost)
    {actions : List { a : Action // a ∈ known }}
    (ha : ∀ action ∈ actions, q.Needs b.failed lost (.inr action.1.key) ∧
      q.lookup action.1.key = .ok action) :
    Advance q lost b (noteAll b actions).builder (noteAll b actions).fresh ∧
      ∀ action ∈ actions, action.1.node ∈ (noteAll b actions).builder.marked := by
  induction actions generalizing b with
  | nil => exact ⟨⟨Extends.refl b, hb⟩, by simp⟩
  | cons action actions ih =>
    have hrest := fun a (h : a ∈ actions) => ha a (List.mem_cons_of_mem _ h)
    obtain ⟨hneeds, hlookup⟩ := ha action List.mem_cons_self
    unfold noteAll
    split
    -- marked before, by whatever: the action is passed over
    case isFalse hm =>
      rw [Builder.not_isNew_iff] at hm
      obtain ⟨hs, hall⟩ := ih hb hrest
      refine ⟨hs, fun a h => ?_⟩
      obtain rfl | h := List.mem_cons.1 h
      · exact hs.grows.marked hm
      · exact hall a h
    case isTrue hm =>
      rw [Builder.isNew_iff] at hm
      have hx := extends_note hm
      have hb' := hb.note hm hneeds ⟨action.2, hlookup⟩
      rw [← hx.failed] at hrest
      obtain ⟨hs, hall⟩ := ih hb' hrest
      refine ⟨⟨hx.trans hs.grows, hs.grounded⟩, fun a h => ?_⟩
      obtain rfl | h := List.mem_cons.1 h
      · exact hs.grows.marked (mem_marked_note.2 (Or.inl rfl))
      · exact hall a h

section Steady

variable (hw : world.Steady calm q)
include hw

theorem yields_checkInterrupt {failed : ActionKey} :
    Yields world calm Attempt.checkInterrupt (fun _ => True) (q.Faulty failed lost) := by
  refine (Yields.checkInterrupt hw).mono (fun _ _ => trivial) ?_
  rintro stop ⟨hc, rfl⟩
  exact .cancelled hc

/-- Looking up needed keys gives their actions in order. -/
theorem yields_lookupAll {failed : ActionKey} {keys : List ActionKey}
    (hk : ∀ k ∈ keys, q.Needs failed lost (.inr k)) :
    Yields world calm (lookupAll keys)
      (fun actions => keys.map q.lookup = actions.map .ok)
      (q.Faulty failed lost) := by
  induction keys with
  | nil => exact .pure rfl
  | cons k keys ih =>
    unfold lookupAll
    refine .bind (yields_checkInterrupt hw) fun _ _ => ?_
    refine .bind ((Yields.lookup hw k).mono (fun _ h => h) ?_) fun action ha => ?_
    · rintro stop ⟨failure, hf, rfl⟩
      exact .unfound (hk k List.mem_cons_self) hf
    refine .bind (ih fun k' h => hk k' (List.mem_cons_of_mem _ h)) fun actions has => ?_
    exact .pure (by rw [List.map_cons, List.map_cons, ha, has])

/-- The producers of a needed artifact: all of them, or nothing known. -/
theorem yields_producersOf {failed : ActionKey} {a : Artifact}
    (ha : q.Needs failed lost (.inl a)) :
    Yields world calm (producersOf a)
      (fun found => match found with
        | none => q.discover a = .ok none
        | some actions => ∃ producers, q.discover a = .ok (some producers) ∧
            producers.keys.map q.lookup = actions.map .ok)
      (q.Faulty failed lost) := by
  unfold producersOf
  refine .bind (yields_checkInterrupt hw) fun _ _ => ?_
  refine .bind ((Yields.discover hw a).mono (fun _ h => h) ?_) fun found hf => ?_
  · rintro stop ⟨failure, hf, rfl⟩
    exact .undiscovered ha hf
  cases found with
  | none => exact .pure hf
  | some producers =>
    refine .bind (yields_lookupAll hw fun k hk => .producer ha hf hk) fun actions has => ?_
    exact .pure ⟨producers, hf, has⟩

/-- Spreading to a needed artifact covers it. -/
theorem yields_spread (hq : q.Keyed) {b : Builder} (hb : b.Grounded q lost) {a : Artifact}
    (ha : q.Needs b.failed lost (.inl a)) :
    Yields world calm (spread b a)
      (fun s => Advance q lost b s.builder s.fresh ∧ s.builder.Covers q a)
      (fun e => q.Faulty b.failed lost e.1) := by
  have hm := hb.mark ha
  have hx := b.extends_mark a.node
  unfold spread
  refine .bind (Yields.within _ (yields_producersOf hw ha)) fun found hf => ?_
  cases found with
  -- nothing is known of the makers, and so none of them has to be marked
  | none =>
    refine .pure ⟨⟨hx, hm⟩, ⟨mem_mark.2 (Or.inl rfl), fun hp => ?_⟩⟩
    rw [hp] at hf
    cases hf
  | some actions =>
    obtain ⟨producers, hp, has⟩ := hf
    have hneeds : ∀ action ∈ actions, q.Needs b.failed lost (.inr action.1.key) ∧
        q.lookup action.1.key = .ok action := by
      intro action hi
      have hmem : Except.ok action ∈ producers.keys.map q.lookup := has ▸ List.mem_map_of_mem hi
      obtain ⟨k, hk, hl⟩ := List.mem_map.1 hmem
      rw [hq k action hl]
      exact ⟨.producer ha hp hk, hl⟩
    obtain ⟨hs, hall⟩ := advance_noteAll hm hneeds
    refine .pure ⟨⟨hx.trans hs.grows, hs.grounded⟩, hs.grows.marked (mem_mark.2 (Or.inl rfl)), ?_⟩
    intro producers' k hp' hk
    obtain rfl : producers = producers' := by
      rw [hp] at hp'
      simpa using hp'
    have hmem : q.lookup k ∈ actions.map Except.ok := has ▸ List.mem_map_of_mem hk
    obtain ⟨action, hi, hl⟩ := List.mem_map.1 hmem
    have := hall action hi
    rwa [Action.node, hq k action hl.symm] at this

/-- Spreading to needed artifacts covers them all. -/
theorem yields_spreadAll (hq : q.Keyed) {b : Builder} (hb : b.Grounded q lost)
    {artifacts : List Artifact} (ha : ∀ a ∈ artifacts, q.Needs b.failed lost (.inl a)) :
    Yields world calm (spreadAll b artifacts)
      (fun s => Advance q lost b s.builder s.fresh ∧ ∀ a ∈ artifacts, s.builder.Covers q a)
      (fun e => q.Faulty b.failed lost e.1) := by
  induction artifacts generalizing b with
  | nil => exact .pure ⟨⟨Extends.refl b, hb⟩, by simp⟩
  | cons a artifacts ih =>
    unfold spreadAll
    refine .bind (yields_spread hw hq hb (ha a List.mem_cons_self)) fun s hs => ?_
    obtain ⟨hs, hc⟩ := hs
    have hrest := fun i (h : i ∈ artifacts) => ha i (List.mem_cons_of_mem _ h)
    have hfail := hs.grows.failed
    rw [← hfail] at hrest ⊢
    refine .bind (ih hs.grounded hrest) fun t ht => ?_
    obtain ⟨ht, hcs⟩ := ht
    refine .pure ⟨hs.trans ht, fun i hi => ?_⟩
    obtain rfl | hi := List.mem_cons.1 hi
    · exact hc.mono ht.grows
    · exact hcs i hi

/-- Going through the queue settles what is noted. `visited` are the noted actions that have left the
queue: noting appends to both lists, so the queue is always the end of the noted actions. -/
theorem yields_visitAll (hq : q.Keyed) {b : Builder} {queue : List { a : Action // a ∈ known }}
    {visited : List Action} (hb : b.Grounded q lost)
    (hn : b.noted = visited ++ queue.map Subtype.val) (hv : ∀ action ∈ visited, b.Settles q action) :
    Yields world calm (visitAll b queue)
      (fun b' => (∃ fresh, b.Extends b' fresh) ∧ b'.Grounded q lost ∧
        ∀ action ∈ b'.noted, b'.Settles q action)
      (fun e => q.Faulty b.failed lost e.1) := by
  induction b, queue using visitAll.induct generalizing visited with
  | case1 b =>
    rw [visitAll]
    refine .pure ⟨⟨[], Extends.refl b⟩, hb, fun action ha => ?_⟩
    rw [hn] at ha
    exact hv action (by simpa using ha)
  | case2 b action queue ihSpread ihMarked =>
    -- the head of the queue has been noted, and so it is needed and wants its nodes along
    have hmem : action.1 ∈ b.noted := by simp [hn]
    obtain ⟨-, hne, hneeds, hknown, hlookup⟩ := hb.noted hmem
    have hx : b.Extends (b.markAll action.1.wanted) [] := b.extends_markAll action.1.wanted
    have hm : (b.markAll action.1.wanted).Grounded q lost := hb.markAll hmem
    have hnoted : (b.markAll action.1.wanted).noted =
        (visited ++ [action.1]) ++ queue.map Subtype.val := by
      rw [hx.noted, hn]
      simp
    rw [visitAll]
    refine .bind (Yields.within _ (yields_checkInterrupt hw)) fun _ _ => ?_
    by_cases hp : action.1.propagates
    case pos =>
      simp only [hp, if_true]
      have hinputs : ∀ i ∈ action.1.derivedInputs, q.Needs b.failed lost (.inl i) :=
        fun i hi => .input hneeds hne hlookup hp hi
      rw [← hx.failed] at hinputs ⊢
      refine .bind (yields_spreadAll hw hq hm hinputs) fun s hs => ?_
      obtain ⟨hs, hc⟩ := hs
      have hx' := hx.trans hs.grows
      rw [← hs.grows.failed]
      -- from here on the action counts as visited
      refine (@ihSpread s (visited ++ [action.1]) hs.grounded ?_ ?_).mono ?_ fun _ h => h
      · rw [hs.grows.noted, hnoted]
        simp
      · intro other ho
        obtain ho | ho := List.mem_append.1 ho
        · exact (hv other ho).mono hx'
        · obtain rfl := List.mem_singleton.1 ho
          exact ⟨fun hn => hs.grows.marked (mem_markAll.2 (Or.inl hn)), fun _ hi => hc _ hi⟩
      · rintro b' ⟨⟨fresh, hf⟩, rest⟩
        exact ⟨⟨_, hx'.trans hf⟩, rest⟩
    case neg =>
      simp only [hp]
      rw [← hx.failed]
      refine (@ihMarked (visited ++ [action.1]) hm hnoted ?_).mono ?_ fun _ h => h
      · intro other ho
        obtain ho | ho := List.mem_append.1 ho
        · exact (hv other ho).mono hx
        · obtain rfl := List.mem_singleton.1 ho
          exact ⟨fun hn => mem_markAll.2 (Or.inl hn), fun h => absurd h hp⟩
      · rintro b' ⟨⟨fresh, hf⟩, rest⟩
        exact ⟨⟨_, hx.trans hf⟩, rest⟩

/-- A finished plan: the artifacts of `lost` are covered, all noted actions are settled, and nothing
that is not needed is in it. -/
structure Finished (q : Queries known) (lost done : List Artifact) (b : Builder) : Prop where
  grounded : b.Grounded q lost
  covers {a : Artifact} : a ∈ done → b.Covers q a
  settles {action : Action} : action ∈ b.noted → b.Settles q action

/-- Walking from one more artifact finishes the plan again. -/
theorem yields_rewind (hq : q.Keyed) {b : Builder} {done : List Artifact}
    (hb : Finished q lost done b) {a : Artifact} (ha : a ∈ lost) :
    Yields world calm (rewind b a)
      (fun b' => Finished q lost (done ++ [a]) b' ∧ b'.failed = b.failed)
      (fun e => q.Faulty b.failed lost e.1) := by
  unfold rewind
  refine .bind (yields_spread hw hq hb.grounded (.lost ha)) fun s hs => ?_
  obtain ⟨hs, hc⟩ := hs
  rw [← hs.grows.failed]
  refine (yields_visitAll hw hq hs.grounded hs.grows.noted
    fun other ho => (hb.settles ho).mono hs.grows).mono ?_ fun _ h => h
  rintro b' ⟨⟨fresh, hx⟩, hg, hsettles⟩
  refine ⟨⟨hg, fun hi => ?_, fun ho => hsettles _ ho⟩, hx.failed⟩
  obtain hi | hi := List.mem_append.1 hi
  · exact (hb.covers hi).mono (hs.grows.trans hx)
  · obtain rfl := List.mem_singleton.1 hi
    exact hc.mono hx

theorem yields_rewindAll_from (hq : q.Keyed) {b : Builder} {done todo : List Artifact}
    (hb : Finished q lost done b) (ha : ∀ a ∈ todo, a ∈ lost) :
    Yields world calm (rewindAll b todo)
      (fun b' => Finished q lost (done ++ todo) b' ∧ b'.failed = b.failed)
      (fun e => q.Faulty b.failed lost e.1) := by
  induction todo generalizing b done with
  | nil => exact .pure ⟨by simpa using hb, rfl⟩
  | cons a todo ih =>
    unfold rewindAll
    refine .bind (yields_rewind hw hq hb (ha a List.mem_cons_self)) fun b' hb' => ?_
    obtain ⟨hb', hfail⟩ := hb'
    rw [← hfail]
    have htodo := fun i (h : i ∈ todo) => ha i (List.mem_cons_of_mem _ h)
    exact (ih hb' htodo).mono (fun _ h => by simpa using h) fun _ h => h

/-- In a steady world a walk from some artifacts ends with a finished plan, or early for a reason that
`Queries.Faulty` lists. -/
theorem yields_rewindAll (hq : q.Keyed) (failed : ActionKey) (lost : List Artifact) :
    Yields world calm (rewindAll (Builder.start failed) lost)
      (fun b => Finished q lost lost b ∧ b.failed = failed)
      (fun e => q.Faulty failed lost e.1) := by
  have hstart : Finished q lost [] (Builder.start failed) :=
    ⟨grounded_start failed, fun h => absurd h List.not_mem_nil, fun h => absurd h List.not_mem_nil⟩
  exact yields_rewindAll_from hw hq hstart fun _ h => h

end Steady

/-! ### The finished plan -/

/-- Where no action is wanted along, the plan misses nothing that is needed. -/
theorem Finished.of_needs {b : Builder} (h : Finished q lost lost b)
    (hn : ∀ action ∈ b.noted, ∀ k, .action k ∉ action.wanted) {x : Artifact ⊕ ActionKey}
    (hx : q.Needs b.failed lost x) :
    match x with
    | .inl a => b.Covers q a
    | .inr k => .action k ∈ b.marked := by
  induction hx with
  | lost ha => exact h.covers ha
  | producer _ hd hk ih => exact ih.producers hd hk
  | @input k action i _ hne hl hp hi ih =>
    -- a marked action was noted, as it is not the failed one and nothing wants it along
    obtain he | ⟨other, ho, rfl⟩ | ⟨other, ho, he⟩ := h.grounded.marked_action ih
    · exact absurd he hne
    · obtain ⟨-, -, -, _, hl'⟩ := h.grounded.noted ho
      rw [hl] at hl'
      obtain rfl : action = ⟨other, _⟩ := Except.ok.inj hl'
      exact (h.settles ho).inputs hp hi
    · exact absurd he (hn other ho k)

end Walk

end Rewinding
