import Mathlib.Data.List.Chain
import Rewinding.Proofs.Attribution
import Rewinding.Proofs.Cancellation
import Rewinding.Proofs.Guards
import Rewinding.Proofs.Trace

/-!
# Where the parts of a plan come from

Each action that a plan evicts was reached from a responsible artifact: there is a `Chain` of artifacts and
actions, each action making the artifact before it and reading the one after it, that begins with such an
artifact, ends with that action, and lies in the plan. So to evaluate the failed action again is to run it.

The graph may change under a walk, and answer each query as it likes, as long as it finds actions under their
own keys (`Keyed`). What makes an artifact is what the trace of the walk says of it (`Made`).

`Builder.Accounted` is the invariant. Each part of a walk keeps it, also where it ends early, and it has two
halves: the plan so far is explained (`Plan.Explained`), and each query of the trace was called for
(`Step.CalledFor`). The first is what `explained_of_planFor` says of a complete plan.
-/

namespace Rewinding

open Procedure Planning

variable {known : List Action} {σ : Type}

/-! ### What the trace says -/

/-- An action that was found was found under its own key. -/
def Keyed : Answered known → Prop
  | ⟨.lookup k, .ok action⟩ => action.1.key = k
  | _ => True

theorem keyed_answer {world : World known σ}
    (hw : ∀ k s action, (world.answer (.lookup k) s).1 = .ok action → action.1.key = k) (step : Step known)
    (s : σ) : Keyed ⟨step, (world.answer step s).1⟩ := by
  cases step with
  | lookup k =>
    cases hanswer : (world.answer (.lookup k) s).1 with
    | ok action => exact hw k s action hanswer
    | error failure => trivial
  | _ => trivial

/-- An artifact was discovered to depend on the action with a key. -/
def Discovered (events : List (Answered known)) (a : Artifact) (k : ActionKey) : Prop :=
  ∃ producers, ⟨.discover a, .ok (some producers)⟩ ∈ events ∧ k ∈ producers.keys

/-- The action was found to make the artifact. -/
def Made (events : List (Answered known)) (a : Artifact) (action : Action) : Prop :=
  Discovered events a action.key ∧ ∃ h, ⟨.lookup action.key, .ok ⟨action, h⟩⟩ ∈ events

/-- An artifact, and an action that makes it. -/
structure Link where
  artifact : Artifact
  action : Action

/-- The action of the first link passes the artifact of the second on. -/
def Link.LeadsTo (l m : Link) : Prop := l.action.propagates ∧ m.artifact ∈ l.action.derivedInputs

/-- The links lead from a lost artifact to an action. -/
structure Chain (events : List (Answered known)) (lost : List Artifact) (links : List Link)
    (action : Action) : Prop where
  first : ∃ l ∈ links.head?, l.artifact ∈ lost
  last : ∃ l ∈ links.getLast?, l.action = action
  made : ∀ l ∈ links, Made events l.artifact l.action
  leads : links.IsChain Link.LeadsTo

namespace Plan

/-- The artifact is lost, or an action of the plan passes it on. -/
def SpreadsTo (p : Plan) (lost : List Artifact) (a : Artifact) : Prop :=
  a ∈ lost ∨ ∃ action ∈ p.additional, action.propagates ∧ a ∈ action.derivedInputs

/-- All nodes of the links are restarted, and their actions are evicted in the order of the links. -/
structure Holds (p : Plan) (links : List Link) : Prop where
  artifact : ∀ l ∈ links, l.artifact.node ∈ p.restart.nodes
  action : ∀ l ∈ links, l.action.node ∈ p.restart.nodes
  ordered : (links.map Link.action).Sublist p.additional

/-- Why a node is restarted: the plan is for its action, or spreads to its artifact, or evicts its action,
or an action that the plan evicts wants it along. -/
def Accounts (p : Plan) (lost : List Artifact) (n : Node) : Prop :=
  n = p.restart.self ∨ (∃ a, p.SpreadsTo lost a ∧ n = a.node) ∨
    ∃ action ∈ p.additional, n = action.node ∨ n ∈ action.wanted

/-- A chain within the plan leads to each action that it evicts, and there is a reason for each node that
it restarts. -/
structure Explained (p : Plan) (events : List (Answered known)) (lost : List Artifact) : Prop where
  action : ∀ action ∈ p.additional, ∃ links, Chain events lost links action ∧ p.Holds links
  node : ∀ n ∈ p.restart.nodes, p.Accounts lost n

end Plan

/-- A query is about an artifact that the plan spreads to, or about what one was discovered to depend on. -/
def Step.CalledFor (events : List (Answered known)) (p : Plan) (lost : List Artifact) : Step known → Prop
  | .discover a => p.SpreadsTo lost a
  | .lookup k => ∃ a, Discovered events a k
  | _ => True

/-- The plan so far is explained by the trace, and each query of the trace was called for. -/
structure Builder.Accounted (b : Builder) (events : List (Answered known)) (lost : List Artifact) : Prop where
  explained : b.plan.Explained events lost
  asked : ∀ e ∈ events, e.step.CalledFor events b.plan lost

/-! ### Longer traces and larger plans -/

section Growth

variable {events later : List (Answered known)} {lost : List Artifact}

theorem Discovered.mono {a : Artifact} {k : ActionKey} (h : Discovered events a k) (hsub : events ⊆ later) :
    Discovered later a k := by
  obtain ⟨producers, he, hk⟩ := h
  exact ⟨producers, hsub he, hk⟩

theorem Made.mono {a : Artifact} {action : Action} (h : Made events a action) (hsub : events ⊆ later) :
    Made later a action := by
  obtain ⟨hd, hmem, he⟩ := h
  exact ⟨hd.mono hsub, hmem, hsub he⟩

theorem Chain.mono {links : List Link} {action : Action} (h : Chain events lost links action)
    (hsub : events ⊆ later) : Chain later lost links action where
  first := h.first
  last := h.last
  made l hl := (h.made l hl).mono hsub
  leads := h.leads

theorem Plan.Explained.mono {p : Plan} (h : p.Explained events lost) (hsub : events ⊆ later) :
    p.Explained later lost where
  action action ha := by
    obtain ⟨links, hchain, hholds⟩ := h.action action ha
    exact ⟨links, hchain.mono hsub, hholds⟩
  node := h.node

/-- A lost artifact is a chain of one link. -/
theorem Chain.single {a : Artifact} {action : Action} (ha : a ∈ lost) (hm : Made events a action) :
    Chain events lost [⟨a, action⟩] action where
  first := ⟨_, rfl, ha⟩
  last := ⟨_, rfl, rfl⟩
  made := List.forall_mem_singleton.2 hm
  leads := .singleton _

/-- A chain goes on from its last action with what that passes on. -/
theorem Chain.concat {links : List Link} {action next : Action} {a : Artifact}
    (h : Chain events lost links action) (hp : action.propagates) (ha : a ∈ action.derivedInputs)
    (hm : Made events a next) : Chain events lost (links ++ [⟨a, next⟩]) next where
  first := by
    obtain ⟨l, hl, hlost⟩ := h.first
    exact ⟨l, List.mem_head?_append_of_mem_head? hl, hlost⟩
  last := ⟨_, List.getLast?_concat, rfl⟩
  made := List.forall_mem_append.2 ⟨h.made, List.forall_mem_singleton.2 hm⟩
  leads := by
    rw [List.isChain_append]
    refine ⟨h.leads, .singleton _, fun l hl m hm => ?_⟩
    obtain ⟨last, hlast, rfl⟩ := h.last
    obtain rfl := Option.mem_unique hl hlast
    obtain rfl : ⟨a, next⟩ = m := by simpa using hm
    exact ⟨hp, ha⟩

/-- What holds of links that begin at a lost artifact, and goes over from each link to the next, holds of all
links of a chain. -/
theorem Chain.induction {links : List Link} {action : Action} (h : Chain events lost links action)
    {motive : Link → Prop}
    (first : ∀ l, l.artifact ∈ lost → Made events l.artifact l.action → motive l)
    (next : ∀ l m, motive l → Made events l.artifact l.action → l.LeadsTo m →
      Made events m.artifact m.action → motive m) : ∀ l ∈ links, motive l := by
  have hleads : links.IsChain fun l m =>
      Made events l.artifact l.action ∧ l.LeadsTo m ∧ Made events m.artifact m.action :=
    .imp_of_mem_imp (fun l m hl hm hlm => ⟨h.made l hl, hlm, h.made m hm⟩) h.leads
  refine hleads.induction motive links (fun l m hlm hl => next l m hl hlm.1 hlm.2.1 hlm.2.2)
    fun hne => ?_
  obtain ⟨l, hl, hlost⟩ := h.first
  obtain rfl : links.head hne = l := by
    rw [List.head?_eq_some_head hne] at hl
    exact Option.some.inj hl
  exact first _ hlost (h.made _ (List.head_mem hne))

namespace Builder

variable {b b' : Builder} {fresh : List Action}

theorem additional_plan (b : Builder) : b.plan.additional = b.noted := rfl

theorem Extends.mem_additional (hx : b.Extends b' fresh) {action : Action}
    (ha : action ∈ b.plan.additional) : action ∈ b'.plan.additional := by
  rw [additional_plan, hx.noted]
  exact List.mem_append_left _ ha

theorem Extends.mem_nodes (hx : b.Extends b' fresh) {n : Node} (hn : n ∈ b.plan.restart.nodes) :
    n ∈ b'.plan.restart.nodes := by
  rw [mem_nodes_plan] at hn ⊢
  rw [hx.failed]
  exact hn.imp id hx.marked

theorem Extends.spreadsTo (hx : b.Extends b' fresh) {a : Artifact} (ha : b.plan.SpreadsTo lost a) :
    b'.plan.SpreadsTo lost a := by
  obtain ha | ⟨action, hm, hp, ha⟩ := ha
  · exact Or.inl ha
  · exact Or.inr ⟨action, hx.mem_additional hm, hp, ha⟩

theorem Extends.holds (hx : b.Extends b' fresh) {links : List Link} (h : b.plan.Holds links) :
    b'.plan.Holds links where
  artifact l hl := hx.mem_nodes (h.artifact l hl)
  action l hl := hx.mem_nodes (h.action l hl)
  ordered := by
    rw [additional_plan, hx.noted]
    exact h.ordered.trans (List.sublist_append_left _ _)

theorem mem_additional_note {action : Action} (hnew : action.node ∉ b.marked) :
    action ∈ (b.note action).plan.additional := by
  rw [additional_plan, (extends_note hnew).noted]
  exact List.mem_append_right _ (List.mem_singleton_self action)

theorem Extends.accounts (hx : b.Extends b' fresh) {n : Node} (h : b.plan.Accounts lost n) :
    b'.plan.Accounts lost n := by
  obtain rfl | ⟨a, ha, hn⟩ | ⟨action, ha, hn⟩ := h
  · exact Or.inl (congrArg Node.action hx.failed.symm)
  · exact Or.inr (Or.inl ⟨a, hx.spreadsTo ha, hn⟩)
  · exact Or.inr (Or.inr ⟨action, hx.mem_additional ha, hn⟩)

theorem Extends.calledFor (hx : b.Extends b' fresh) (hsub : events ⊆ later) {step : Step known}
    (h : step.CalledFor events b.plan lost) : step.CalledFor later b'.plan lost := by
  cases step with
  | discover a => exact hx.spreadsTo h
  | lookup k =>
    obtain ⟨a, ha⟩ := h
    exact ⟨a, ha.mono hsub⟩
  | _ => trivial

end Builder

theorem Plan.holds_nil (p : Plan) : p.Holds [] := ⟨nofun, nofun, List.nil_sublist _⟩

/-- A plan that holds some links holds one more when an action is noted for an artifact of the plan. -/
theorem Plan.Holds.note {b : Builder} {links : List Link} (h : b.plan.Holds links) {a : Artifact}
    (hnode : a.node ∈ b.plan.restart.nodes) {action : Action} (hnew : action.node ∉ b.marked) :
    (b.note action).plan.Holds (links ++ [⟨a, action⟩]) where
  artifact := by
    have hx := Builder.extends_note hnew
    have hlast := hx.mem_nodes hnode
    exact List.forall_mem_append.2 ⟨(hx.holds h).artifact, List.forall_mem_singleton.2 hlast⟩
  action := by
    have hx := Builder.extends_note hnew
    have hlast : action.node ∈ (b.note action).plan.restart.nodes :=
      Builder.mem_nodes_plan.2 (Or.inr (Builder.mem_marked_note.2 (Or.inl rfl)))
    exact List.forall_mem_append.2 ⟨(hx.holds h).action, List.forall_mem_singleton.2 hlast⟩
  -- the new action comes last on both lists
  ordered := by
    rw [List.map_append, Builder.additional_plan, (Builder.extends_note hnew).noted]
    exact h.ordered.append (List.Sublist.refl _)

end Growth

/-! ### What a walk does to its plan -/

namespace Builder.Accounted

variable {events : List (Answered known)} {lost : List Artifact} {b b' : Builder} {fresh : List Action}

/-- A larger plan is accounted for if what is new to it is. -/
theorem extend (h : b.Accounted events lost) (hx : b.Extends b' fresh)
    (hnode : ∀ n ∈ b'.marked, n ∈ b.marked ∨ b'.plan.Accounts lost n)
    (hfresh : ∀ action ∈ fresh, ∃ links, Chain events lost links action ∧ b'.plan.Holds links) :
    b'.Accounted events lost where
  explained.action action ha := by
    rw [additional_plan, hx.noted] at ha
    obtain ha | ha := List.mem_append.1 ha
    · obtain ⟨links, hchain, hholds⟩ := h.explained.action action ha
      exact ⟨links, hchain, hx.holds hholds⟩
    · exact hfresh action ha
  explained.node n hn := by
    obtain rfl | hn := mem_nodes_plan.1 hn
    · exact Or.inl rfl
    obtain hn | hn := hnode n hn
    · exact hx.accounts (h.explained.node n (mem_nodes_plan.2 (Or.inr hn)))
    · exact hn
  asked e he := hx.calledFor (List.Subset.refl _) (h.asked e he)

theorem mark (h : b.Accounted events lost) {a : Artifact} (ha : b.plan.SpreadsTo lost a) :
    (b.mark a.node).Accounted events lost := by
  have hx := b.extends_mark a.node
  refine h.extend hx (fun n hn => ?_) nofun
  obtain rfl | hn := mem_mark.1 hn
  · exact Or.inr (Or.inr (Or.inl ⟨a, hx.spreadsTo ha, rfl⟩))
  · exact Or.inl hn

theorem markAll (h : b.Accounted events lost) {action : Action} (ha : action ∈ b.noted) :
    (b.markAll action.wanted).Accounted events lost := by
  have hx := b.extends_markAll action.wanted
  refine h.extend hx (fun n hn => ?_) nofun
  obtain hn | hn := mem_markAll.1 hn
  · exact Or.inr (Or.inr (Or.inr ⟨action, hx.mem_additional ha, Or.inr hn⟩))
  · exact Or.inl hn

/-- What is noted makes an artifact that the plan spreads to, so a chain that led there goes on to it. -/
theorem note (h : b.Accounted events lost) {a : Artifact} {action : Action} (ha : b.plan.SpreadsTo lost a)
    (hnode : a.node ∈ b.plan.restart.nodes) (hm : Made events a action) (hnew : action.node ∉ b.marked) :
    (b.note action).Accounted events lost := by
  refine h.extend (extends_note hnew) (fun n hn => ?_) fun other ho => ?_
  · obtain rfl | hn := mem_marked_note.1 hn
    · exact Or.inr (Or.inr (Or.inr ⟨action, mem_additional_note hnew, Or.inl rfl⟩))
    · exact Or.inl hn
  obtain rfl := List.mem_singleton.1 ho
  obtain ha | ⟨before, hb, hp, ha⟩ := ha
  · exact ⟨_, Chain.single ha hm, (Plan.holds_nil _).note hnode hnew⟩
  · obtain ⟨links, hchain, hholds⟩ := h.explained.action before hb
    exact ⟨_, hchain.concat hp ha hm, hholds.note hnode hnew⟩

theorem noteAll {a : Artifact} {actions : List { action : Action // action ∈ known }}
    (h : b.Accounted events lost) (ha : b.plan.SpreadsTo lost a) (hnode : a.node ∈ b.plan.restart.nodes)
    (hm : ∀ action ∈ actions, Made events a action.1) :
    (Walk.noteAll b actions).builder.Accounted events lost := by
  induction actions generalizing b with
  | nil => exact h
  | cons action actions ih =>
    have hrest := fun other (ho : other ∈ actions) => hm other (List.mem_cons_of_mem _ ho)
    unfold Walk.noteAll
    split
    case isFalse => exact ih h ha hnode hrest
    case isTrue hnew =>
      rw [isNew_iff] at hnew
      have hx := extends_note hnew
      exact ih (h.note ha hnode (hm action List.mem_cons_self) hnew) (hx.spreadsTo ha) (hx.mem_nodes hnode)
        hrest

/-- A step that is called for. -/
theorem ask (h : b.Accounted events lost) {e : Answered known} (he : e.step.CalledFor events b.plan lost) :
    b.Accounted (events ++ [e]) lost where
  explained := h.explained.mono (List.subset_append_left _ _)
  asked := by
    have hlater : ∀ step : Step known, step.CalledFor events b.plan lost →
        step.CalledFor (events ++ [e]) b.plan lost := fun _ hstep =>
      (Extends.refl b).calledFor (List.subset_append_left _ _) hstep
    rw [List.forall_mem_append, List.forall_mem_singleton]
    exact ⟨fun e' he' => hlater _ (h.asked e' he'), hlater _ he⟩

end Builder.Accounted

/-! ### The walk, part by part -/

namespace Walk

open Builder

variable {past : List (Answered known)} {lost : List Artifact} {b : Builder}

theorem recounts_checkInterrupt (h : b.Accounted past lost) :
    Recounts Keyed past Attempt.checkInterrupt (fun later _ => b.Accounted later lost)
      fun later _ => b.Accounted later lost :=
  .checkInterrupt (h.ask trivial) (h.ask trivial)

theorem recounts_lookupAll {a : Artifact} {keys : List ActionKey} (h : b.Accounted past lost)
    (hk : ∀ k ∈ keys, Discovered past a k) :
    Recounts Keyed past (lookupAll keys)
      (fun later actions => b.Accounted later lost ∧ ∀ action ∈ actions, Made later a action.1)
      fun later _ => b.Accounted later lost := by
  induction keys generalizing past with
  | nil => exact .pure ⟨h, nofun⟩
  | cons k keys ih =>
    unfold lookupAll
    refine .bind (recounts_checkInterrupt h) fun past₁ _ h₁ hacc => ?_
    have hk₁ := fun k' hk' => (hk k' hk').mono h₁
    have hcalled : (Step.lookup k : Step known).CalledFor past₁ b.plan lost := ⟨a, hk₁ k List.mem_cons_self⟩
    have hlookup : Recounts Keyed past₁ (Attempt.lookup k)
        (fun later action => b.Accounted later lost ∧ Made later a action.1)
        fun later _ => b.Accounted later lost := by
      refine .lookup k (fun action hkey => ⟨hacc.ask hcalled, ?_⟩) fun failure => hacc.ask hcalled
      obtain rfl : action.1.key = k := hkey
      exact ⟨(hk₁ _ List.mem_cons_self).mono (List.subset_append_left _ _), action.2, by simp⟩
    refine .bind hlookup fun past₂ action h₂ hmid => ?_
    obtain ⟨hacc, hmade⟩ := hmid
    refine .bind (ih hacc fun k' hk' => (hk₁ k' (List.mem_cons_of_mem _ hk')).mono h₂)
      fun past₃ actions h₃ hmid => .pure ⟨hmid.1, fun other ho => ?_⟩
    obtain rfl | ho := List.mem_cons.1 ho
    · exact hmade.mono h₃
    · exact hmid.2 other ho

/-- The actions that are found to make an artifact are those that the trace says make it. -/
theorem recounts_producersOf {a : Artifact} (h : b.Accounted past lost) (ha : b.plan.SpreadsTo lost a) :
    Recounts Keyed past (producersOf a)
      (fun later found => b.Accounted later lost ∧
        ∀ actions, found = some actions → ∀ action ∈ actions, Made later a action.1)
      fun later _ => b.Accounted later lost := by
  unfold producersOf
  refine .bind (recounts_checkInterrupt h) fun past₁ _ _ hacc => ?_
  have hcalled : (Step.discover a : Step known).CalledFor past₁ b.plan lost := ha
  have hdiscover : Recounts Keyed past₁ (Attempt.discover a)
      (fun later found => b.Accounted later lost ∧ ⟨.discover a, .ok found⟩ ∈ later)
      fun later _ => b.Accounted later lost :=
    .discover a (fun found => ⟨hacc.ask hcalled, by simp⟩) fun failure => hacc.ask hcalled
  refine .bind hdiscover fun past₂ found _ hmid => ?_
  obtain ⟨hacc, hfound⟩ := hmid
  cases found with
  | none => exact .pure ⟨hacc, nofun⟩
  | some producers =>
    refine .bind (recounts_lookupAll hacc fun k hk => ⟨producers, hfound, hk⟩)
      fun past₃ actions _ hmid => .pure ⟨hmid.1, ?_⟩
    rintro _ ⟨⟩
    exact hmid.2

theorem recounts_spread {a : Artifact} (h : b.Accounted past lost) (ha : b.plan.SpreadsTo lost a) :
    Recounts Keyed past (spread b a)
      (fun later s => s.builder.Accounted later lost ∧ b.Extends s.builder (s.fresh.map Subtype.val))
      fun later e => e.2.Accounted later lost := by
  have hx := b.extends_mark a.node
  have hmarked : a.node ∈ (b.mark a.node).plan.restart.nodes :=
    mem_nodes_plan.2 (Or.inr (mem_mark.2 (Or.inl rfl)))
  unfold spread
  refine .bind (.within _ (recounts_producersOf (h.mark ha) (hx.spreadsTo ha))) fun past₁ found _ hmid => ?_
  obtain ⟨hacc, hmade⟩ := hmid
  cases found with
  | none => exact .pure ⟨hacc, hx⟩
  | some actions =>
    exact .pure ⟨hacc.noteAll (hx.spreadsTo ha) hmarked (hmade actions rfl),
      hx.trans (extends_noteAll _ actions)⟩

theorem recounts_spreadAll {artifacts : List Artifact} (h : b.Accounted past lost)
    (ha : ∀ a ∈ artifacts, b.plan.SpreadsTo lost a) :
    Recounts Keyed past (spreadAll b artifacts)
      (fun later s => s.builder.Accounted later lost ∧ b.Extends s.builder (s.fresh.map Subtype.val))
      fun later e => e.2.Accounted later lost := by
  induction artifacts generalizing past b with
  | nil => exact .pure ⟨h, .refl b⟩
  | cons a artifacts ih =>
    unfold spreadAll
    refine .bind (recounts_spread h (ha a List.mem_cons_self)) fun past₁ s _ hs => ?_
    refine .bind (ih hs.1 fun other ho => hs.2.spreadsTo (ha other (List.mem_cons_of_mem _ ho)))
      fun past₂ t _ ht => .pure ⟨ht.1, ?_⟩
    rw [List.map_append]
    exact hs.2.trans ht.2

/-- What extends a plan that extends another extends that one too. -/
theorem recounts_of_extends {ε : Type} {x : ExceptT ε (Procedure known) Builder} {b₁ : Builder}
    {fresh : List Action} {stop : List (Answered known) → ε → Prop} (hx : b.Extends b₁ fresh)
    (h : Recounts Keyed past x (fun later b' => b'.Accounted later lost ∧ ∃ fresh', b₁.Extends b' fresh')
      stop) :
    Recounts Keyed past x (fun later b' => b'.Accounted later lost ∧ ∃ fresh', b.Extends b' fresh')
      stop := by
  refine h.mono (fun later b' _ hb' => ?_) fun _ _ _ he => he
  obtain ⟨hacc, fresh', hgrows⟩ := hb'
  exact ⟨hacc, _, hx.trans hgrows⟩

/-- Each action of the queue is noted, so the plan spreads to what it passes on. -/
theorem recounts_visitAll {queue : List { a : Action // a ∈ known }} (h : b.Accounted past lost)
    (hq : ∀ action ∈ queue, action.1 ∈ b.noted) :
    Recounts Keyed past (visitAll b queue)
      (fun later b' => b'.Accounted later lost ∧ ∃ fresh, b.Extends b' fresh)
      fun later e => e.2.Accounted later lost := by
  induction b, queue using visitAll.induct generalizing past with
  | case1 b =>
    rw [visitAll]
    exact .pure ⟨h, [], .refl b⟩
  | case2 b action queue ihSpread ihMarked =>
    rw [visitAll]
    refine .bind (.within _ (recounts_checkInterrupt h)) fun past₁ _ _ hacc => ?_
    have hnoted := hq action List.mem_cons_self
    have hrest := fun other (ho : other ∈ queue) => hq other (List.mem_cons_of_mem _ ho)
    have hx := b.extends_markAll action.1.wanted
    have hacc := hacc.markAll hnoted
    by_cases hp : action.1.propagates
    case pos =>
      simp only [hp, if_true]
      refine .bind (recounts_spreadAll hacc fun i hi =>
        Or.inr ⟨action.1, hx.mem_additional hnoted, hp, hi⟩) fun past₂ s _ hs => ?_
      refine recounts_of_extends (hx.trans hs.2) (ihSpread s hs.1 fun other ho => ?_)
      rw [hs.2.noted]
      obtain ho | ho := List.mem_append.1 ho
      · exact List.mem_append_left _ (hx.mem_additional (hrest other ho))
      · exact List.mem_append_right _ (List.mem_map_of_mem ho)
    case neg =>
      simp only [hp]
      exact recounts_of_extends hx (ihMarked hacc fun other ho => hx.mem_additional (hrest other ho))

theorem recounts_rewind {a : Artifact} (h : b.Accounted past lost) (ha : a ∈ lost) :
    Recounts Keyed past (rewind b a)
      (fun later b' => b'.Accounted later lost ∧ ∃ fresh, b.Extends b' fresh)
      fun later e => e.2.Accounted later lost := by
  unfold rewind
  refine .bind (recounts_spread h (Or.inl ha)) fun past₁ s _ hs => ?_
  refine recounts_of_extends hs.2 (recounts_visitAll hs.1 fun action hm => ?_)
  rw [hs.2.noted]
  exact List.mem_append_right _ (List.mem_map_of_mem hm)

/-- One plan serves all lost artifacts: what was noted for an earlier one keeps its chain. -/
theorem recounts_rewindAll {artifacts : List Artifact} (h : b.Accounted past lost) (ha : artifacts ⊆ lost) :
    Recounts Keyed past (rewindAll b artifacts)
      (fun later b' => b'.Accounted later lost ∧ ∃ fresh, b.Extends b' fresh)
      fun later e => e.2.Accounted later lost := by
  induction artifacts generalizing past b with
  | nil => exact .pure ⟨h, [], .refl b⟩
  | cons a artifacts ih =>
    rw [List.cons_subset] at ha
    unfold rewindAll
    refine .bind (recounts_rewind h ha.1) fun past₁ b₁ _ hmid => ?_
    obtain ⟨hacc, fresh, hgrows⟩ := hmid
    exact recounts_of_extends hgrows (ih hacc ha.2)

end Walk

/-! ### Planning -/

/-- The graph was asked nothing. -/
def Quiet (events : List (Answered known)) : Prop := ∀ e ∈ events, e.step.asksGraph = false

theorem quiet_nil : Quiet ([] : List (Answered known)) := fun _ h => absurd h List.not_mem_nil

theorem Quiet.concat {events : List (Answered known)} (h : Quiet events) {e : Answered known}
    (he : e.step.asksGraph = false) : Quiet (events ++ [e]) :=
  List.forall_mem_append.2 ⟨h, List.forall_mem_singleton.2 he⟩

/-- A plan that restarts the failed action only, before anything is asked. -/
theorem Quiet.accounted_start {events : List (Answered known)} (h : Quiet events) (failed : ActionKey)
    (lost : List Artifact) : (Builder.start failed).Accounted events lost where
  explained.action := nofun
  explained.node n hn := by
    obtain rfl | hn := Builder.mem_nodes_plan.1 hn
    · exact Or.inl rfl
    · obtain rfl : Node.action failed = n := by simpa [Builder.start] using hn
      exact Or.inl rfl
  asked e he := by
    have hq := h e he
    obtain ⟨step, answer⟩ := e
    cases step with
    | discover a => exact Bool.noConfusion hq
    | lookup k => exact Bool.noConfusion hq
    | _ => trivial

namespace Planning

variable {allowed : Answered known → Prop} {past : List (Answered known)}

theorem recounts_report (message : String) (h : Quiet past) :
    Recounts allowed past (Attempt.report message) (fun later _ => Quiet later) fun later _ => Quiet later :=
  .report message (h.concat rfl) fun _ => h.concat rfl

theorem recounts_recordAll (failed : Action) (key : ActionKey) (loss : Loss) (entries : List (String × Input))
    (h : Quiet past) :
    Recounts allowed past (recordAll failed key loss entries) (fun later _ => Quiet later)
      fun later _ => Quiet later := by
  induction entries generalizing past with
  | nil => exact .pure h
  | cons entry entries ih =>
    unfold recordAll
    have hrecord : Recounts allowed past (Attempt.step (.record key entry.1)) (fun later _ => Quiet later)
        fun later _ => Quiet later := .step _ fun answer _ => h.concat rfl
    refine .bind hrecord fun past₁ new _ h₁ => ?_
    cases new with
    | true => exact ih h₁
    | false => exact .bind (recounts_report _ h₁) fun _ _ _ h₂ => .fail h₂

theorem recounts_responsible (failed : Action) (directDeps : Std.ExtTreeSet Node) (loss : Loss)
    (runfiles : OwnerLookup) (h : Quiet past) :
    Recounts allowed past (responsible failed directDeps loss runfiles)
      (fun later r => Quiet later ∧
        Ownership.resolve ⟨loss.owners, runfiles, directDeps⟩ failed.key loss.inputs = .ok r)
      fun later _ => Quiet later := by
  unfold responsible
  split
  case h_1 r hr => exact .pure ⟨h, hr⟩
  case h_2 failure _ =>
    split
    · exact .bind (recounts_report _ h) fun _ _ _ h₁ => .fail h₁
    · exact .fail h

/-- The trace of planning, up to wherever it ends, accounts for a plan that begins with the artifacts that
are responsible; if planning comes to a plan, it is that one. -/
theorem recounts_planFor (failed : Action) (key : ActionKey) (directDeps : Std.ExtTreeSet Node) (loss : Loss)
    (runfiles : OwnerLookup) :
    Recounts Keyed [] (planFor failed key directDeps loss runfiles)
      (fun (events : List (Answered known)) plan => ∃ (r : Responsible) (b : Builder),
        Ownership.resolve ⟨loss.owners, runfiles, directDeps⟩ failed.key loss.inputs = .ok r ∧
        b.Accounted events (owners r) ∧ b.failed = key ∧ plan = b.plan)
      fun events _ => Quiet events ∨ ∃ (r : Responsible) (b : Builder),
        Ownership.resolve ⟨loss.owners, runfiles, directDeps⟩ failed.key loss.inputs = .ok r ∧
        b.Accounted events (owners r) := by
  unfold planFor checkNotRepeated
  refine .bind ((recounts_recordAll failed key loss _ quiet_nil).mono (fun _ _ _ h => h)
    fun _ _ _ h => Or.inl h) fun past₁ _ _ h₁ => ?_
  refine .bind ((recounts_responsible failed directDeps loss runfiles h₁).mono (fun _ _ _ h => h)
    fun _ _ _ h => Or.inl h) fun past₂ r _ hr => ?_
  obtain ⟨h₂, hr⟩ := hr
  have howners : r.toList.map Prod.fst = owners r := rfl
  simp only [howners]
  split
  · exact .bind (.fail (Or.inl h₂)) fun _ _ _ (h : False) => h.elim
  have hstart := h₂.accounted_start key (owners r)
  refine .bind (.adapt Prod.fst ((Walk.recounts_rewindAll hstart (List.Subset.refl _)).mono
    (fun _ _ _ h => h) fun later e _ he => Or.inr ⟨r, e.2, hr, he⟩)) fun past₃ b _ hb => .pure ?_
  obtain ⟨hacc, fresh, hgrows⟩ := hb
  exact ⟨r, b, hr, hacc, hgrows.failed, rfl⟩

/-- Planning ends before it asks anything, and without a plan, or its trace accounts for a plan; if planning
comes to a plan, it is that one. -/
theorem accounted_of_planFor {world : World known σ}
    (hw : ∀ k s action, (world.answer (.lookup k) s).1 = .ok action → action.1.key = k) (failed : Action)
    (key : ActionKey) (directDeps : Std.ExtTreeSet Node) (loss : Loss) (runfiles : OwnerLookup) (s : σ) :
    (Quiet ((planFor failed key directDeps loss runfiles).run.trace world s) ∧
      ∀ plan, (exec world (planFor failed key directDeps loss runfiles) s).1 ≠ .ok plan) ∨
    ∃ (r : Responsible) (b : Builder),
      Ownership.resolve ⟨loss.owners, runfiles, directDeps⟩ failed.key loss.inputs = .ok r ∧
      b.Accounted ((planFor failed key directDeps loss runfiles).run.trace world s) (owners r) ∧
      ∀ plan, (exec world (planFor failed key directDeps loss runfiles) s).1 = .ok plan →
        plan = b.plan ∧ b.failed = key := by
  have hend := (recounts_planFor failed key directDeps loss runfiles).exec (keyed_answer hw) s
  generalize (exec world _ s).1 = result at hend ⊢
  cases result with
  | error stop =>
    obtain hquiet | ⟨r, b, hr, hacc⟩ := hend
    · exact Or.inl ⟨hquiet, nofun⟩
    · exact Or.inr ⟨r, b, hr, hacc, nofun⟩
  | ok plan =>
    obtain ⟨r, b, hr, hacc, hfailed, rfl⟩ := hend
    refine Or.inr ⟨r, b, hr, hacc, fun plan h => ?_⟩
    exact ⟨(Except.ok.inj h).symm, hfailed⟩

/-- **Each evicted action was reached from a responsible dependency, inside the plan.** Let planning come to a
plan, on a graph that finds actions under their own keys and otherwise answers as it likes. Then a chain leads
from a responsible direct dependency to each action that is evicted, through what was discovered and within
the plan, and there is a reason for each node that is restarted. -/
theorem explained_of_planFor {world : World known σ}
    (hw : ∀ k s action, (world.answer (.lookup k) s).1 = .ok action → action.1.key = k) (failed : Action)
    (key : ActionKey) (directDeps : Std.ExtTreeSet Node) (loss : Loss) (runfiles : OwnerLookup) (s : σ)
    {plan : Plan} (h : (exec world (planFor failed key directDeps loss runfiles) s).1 = .ok plan) :
    ∃ r, Ownership.resolve ⟨loss.owners, runfiles, directDeps⟩ failed.key loss.inputs = .ok r ∧
      (∀ a ∈ owners r, a.node ∈ directDeps) ∧ plan.restart.self = .action key ∧
      plan.Explained ((planFor failed key directDeps loss runfiles).run.trace world s) (owners r) := by
  obtain ⟨-, hnone⟩ | ⟨r, b, hr, hacc, hplan⟩ :=
    accounted_of_planFor hw failed key directDeps loss runfiles s
  · exact absurd h (hnone plan)
  obtain ⟨rfl, rfl⟩ := hplan plan h
  refine ⟨r, hr, fun a ha => ?_, rfl, hacc.explained⟩
  exact Std.ExtTreeSet.contains_iff_mem.1 (Ownership.isDirect_of_resolve hr (mem_owners.1 ha))

end Planning

/-! ### A graph that changes meanwhile -/

namespace Accessor

/-- `//p#0` makes `out/a`, and passes on `out/b` and `out/x`; `//q#0` makes `out/b` and `//r#0` makes
`out/x`. -/
def relayActions : List Action :=
  [{ key := ⟨"//p", 0⟩, inputs := [⟨"out/b", .derived⟩, ⟨"out/x", .derived⟩, ⟨"src", .source⟩],
      propagates := true, rewindDeps := some [.other "aspect"] },
    { key := ⟨"//q", 0⟩ }, { key := ⟨"//r", 0⟩ }]

/-- A graph of these actions that counts its queries. What makes `out/b` is not done at first. -/
def relay : Accessor relayActions Nat where
  discover artifact asked :=
    (.ok <| match artifact.path with
      | "out/a" => some (.single ⟨"//p", 0⟩)
      | "out/b" => if asked < 4 then none else some (.single ⟨"//q", 0⟩)
      | _ => some (.single ⟨"//r", 0⟩), asked + 1)
  lookup key asked :=
    (match h : relayActions.find? fun action => action.key = key with
      | some action => .ok ⟨action, List.mem_of_find?_eq_some h⟩
      | none => .error (.actionNotFound key), asked + 1)

/-- Plan for an action that lost `out/a` and `out/b`. -/
def planRelay : Attempt relayActions Plan :=
  planFor { key := ⟨"//f", 0⟩ } ⟨"//f", 0⟩ (.ofList [Node.artifact "out/a", .artifact "out/b"])
    (.ofEntries "lost" [("1", .artifact ⟨"out/a", .derived⟩), ("2", .artifact ⟨"out/b", .derived⟩)] ∅)
    (∅ : Owners)

/-- The state before the first query. -/
def relayStart : State relayActions Nat := { build := {}, graph := 0 }

theorem keyed_lookup_relay (k : ActionKey) (asked : Nat) (action : { a : Action // a ∈ relayActions })
    (h : (relay.lookup k asked).1 = .ok action) : action.1.key = k := by
  unfold relay at h
  simp only at h
  split at h
  case h_1 found hfound =>
    obtain rfl := Except.ok.inj h
    simpa using List.find?_some hfound
  case h_2 => cases h

/-- `//q#0` is reached from `out/b` itself, as nothing was known of that when `//p#0` was visited. -/
theorem explained_of_planFor_relay :
    (∀ k s action, ((relay.world .log none).answer (.lookup k) s).1 = .ok action → action.1.key = k) ∧
    ∃ plan, (exec (relay.world .log none) planRelay relayStart).1 = .ok plan ∧
      plan.additionalKeys = [⟨"//p", 0⟩, ⟨"//r", 0⟩, ⟨"//q", 0⟩] ∧
      ∃ r, (∀ a ∈ owners r, a.node ∈ Std.ExtTreeSet.ofList [Node.artifact "out/a", .artifact "out/b"]) ∧
        plan.Explained (planRelay.run.trace (relay.world .log none) relayStart)
          (owners r) := by
  have hkeyed : ∀ k s action, ((relay.world .log none).answer (.lookup k) s).1 = .ok action →
      action.1.key = k := fun k s action h => keyed_lookup_relay k s.graph action h
  have hkeys : (exec (relay.world .log none) planRelay relayStart).1.toOption.map
      Plan.additionalKeys = some [⟨"//p", 0⟩, ⟨"//r", 0⟩, ⟨"//q", 0⟩] := by decide +kernel
  obtain ⟨plan, hplan, hkeys⟩ := Option.map_eq_some_iff.1 hkeys
  have hplan := eq_ok_of_toOption hplan
  obtain ⟨r, -, hdirect, -, hexplained⟩ := explained_of_planFor hkeyed _ _ _ _ _ _ hplan
  exact ⟨hkeyed, plan, hplan, hkeys, r, hdirect, hexplained⟩

end Accessor

end Rewinding
