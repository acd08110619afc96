import Rewinding.Proofs.Reports
import Rewinding.Proofs.Runs
import Rewinding.Proofs.Upstream
import Rewinding.Proofs.Values

/-!
# Repaired losses do not look repeated

An action that loses an input of the same digest twice in a build fails, as a rewind should have made
that input again. A rewind does so: what was lost is not done any more, and when it is done again, it
has a later generation and another value. So an action whose losses are all repaired is never found to
have lost an input twice (`current_not_repeated`), whatever else is completed and rewound meanwhile.

* `Evaluation.Traced` says where the values of nodes come from: all of them were hashed in the run.
* `Build.Superseded` says what the digests in the history are: values of artifacts that have been
  completed since, or are not done.
-/

namespace Rewinding

open Planning

namespace Session

/-- A loss of current inputs of `key`: each is an artifact that the action reads, under the value that
its node has. -/
def Current (s : Session) (key : ActionKey) (loss : Loss) : Prop :=
  ∃ action, s.graph.actions[key]? = some action ∧ ∀ entry ∈ loss.lost.toList,
    ∃ a ∈ action.inputs, entry.2 = .artifact a ∧ s.build.evaluation.value? a.node = some entry.1

theorem Current.exists_artifact {s : Session} {key : ActionKey} {loss : Loss}
    (h : s.Current key loss) : ∀ input ∈ loss.inputs, ∃ a, input = .artifact a := by
  obtain ⟨action, -, h⟩ := h
  intro input hi
  obtain ⟨entry, he, rfl⟩ := List.mem_map.1 hi
  obtain ⟨a, -, ha, -⟩ := h entry he
  exact ⟨a, ha⟩

/-- The digests of the loss are values of inputs. -/
theorem Current.exists_value {s : Session} {key : ActionKey} {loss : Loss} (h : s.Current key loss)
    {digest : String} (hd : digest ∈ loss.digests) :
    ∃ action a, s.graph.actions[key]? = some action ∧ a ∈ action.inputs ∧
      .artifact a ∈ loss.inputs ∧ s.build.evaluation.value? a.node = some digest := by
  obtain ⟨action, hk, h⟩ := h
  obtain ⟨entry, he, rfl⟩ := List.mem_map.1 hd
  obtain ⟨a, hi, ha, hv⟩ := h entry he
  exact ⟨action, a, hk, hi, List.mem_map.2 ⟨entry, he, ha⟩, hv⟩

/-- A rewind restarts the lost inputs. -/
theorem Current.isDone_handle {c : Config} {s : Session} (hg : s.graph = .ofConfig c)
    {key : ActionKey} {loss : Loss} {o : Outcome} (ho : (s.handle key loss).1 = .ok o)
    {action : Action} {a : Artifact} (hk : s.graph.actions[key]? = some action)
    (hi : a ∈ action.inputs) (hl : .artifact a ∈ loss.inputs) :
    (s.handle key loss).2.build.evaluation.isDone a.node = false := by
  have hkeys : ∀ k (action : Action), s.graph.actions[k]? = some action → action.key = k := by
    rw [hg]
    exact fun k action => Graph.key_of_getElem?_actions
  obtain ⟨lost, builder, hlost, -, hrewound⟩ := exists_rewound hkeys ho
  obtain ⟨failed, r, hf, hr, rfl⟩ := responsible?_eq_some.1 hlost
  rw [hk] at hf
  obtain rfl := Option.some.inj hf
  have hd : a.node ∈ action.directDeps := by
    unfold Action.directDeps
    rw [Std.ExtTreeSet.mem_ofList, List.contains_iff_mem]
    exact List.mem_map_of_mem hi
  have ha : a ∈ owners r := mem_owners.2 (Ownership.mem_of_resolve hr hl hd)
  exact hrewound.isDone_of_marked (hrewound.finished.covers ha).node

/-- What was not lost before is not found to be, and the loss of artifacts shows no defect either. -/
theorem handle_of_fresh {s : Session} {key : ActionKey} {loss : Loss}
    (hnew : ∀ digest ∈ loss.digests, ⟨key, digest⟩ ∉ s.build.history)
    (ha : ∀ input ∈ loss.inputs, ∃ a, input = .artifact a) :
    (∀ stop, (s.handle key loss).1 = .error stop → stop.fault? ≠ some .repeatedLoss) ∧
      (s.handle key loss).2.build.reports = s.build.reports := by
  have hend := s.handled_handle key loss
  generalize hr : (s.handle key loss).1 = result at hend
  generalize hb : (s.handle key loss).2.build = b at hend
  cases hend with
  | cancelled _ | unknown _ _ | exceeded _ _ _ =>
    refine ⟨fun stop he => ?_, rfl⟩
    obtain rfl := Except.error.inj he
    exact nofun
  | unplanned _ _ _ hp =>
    cases hp with
    | repeated he _ hd => exact absurd hd (hnew _ (Loss.mem_digests_of_toList_eq he))
    | defect _ hd _ => exact absurd hd (Ownership.resolve_ne_error ha _)
    | sourceLost _ _ _ =>
      refine ⟨fun stop he => ?_, Build.reports_recordEach ..⟩
      obtain rfl := Except.error.inj he
      exact nofun
    | stopped hq _ _ _ _ =>
      refine ⟨fun stop he => ?_, Build.reports_recordEach ..⟩
      obtain rfl := Except.error.inj he
      rw [hq.fault?_eq_none]
      exact nofun
  | done _ _ _ _ =>
    refine ⟨nofun, ?_⟩
    rw [← hb]
    exact (applied_handle hr).reports

end Session

/-! ### Where values come from -/

/-- What was hashed in the past accounts for the values of nodes and for their generations. -/
structure Evaluation.Traced (past : List (Node × UInt64)) (e : Evaluation) : Prop where
  /-- A generation tells how often its node has been completed. -/
  generation (n : Node) : (e.generation n).toNat = (past.map Prod.fst).count n
  /-- Nothing of a later generation has been hashed. -/
  le {n : Node} {g : UInt64} : (n, g) ∈ past → g ≤ e.generation n
  value {n : Node} {digest : String} : e.value? n = some digest →
    (n, e.generation n) ∈ past ∧ digest = valueAt n (e.generation n)

namespace Evaluation.Traced

variable {past : List (Node × UInt64)} {e : Evaluation}

theorem empty : Traced [] {} where
  generation n := by
    unfold Evaluation.generation
    rw [Std.ExtTreeMap.getElem?_empty]
    rfl
  le h := absurd h List.not_mem_nil
  value h := by
    unfold value? at h
    rw [Std.ExtTreeMap.getElem?_empty] at h
    cases h

/-- The next generation is a later one, unless the counter is at its end. -/
theorem toNat_generation_add_one (h : Traced past e) {node : Node}
    (hcount : (past.map Prod.fst).count node + 1 < 2 ^ 64) :
    (e.generation node + 1).toNat = (e.generation node).toNat + 1 := by
  have hg := h.generation node
  have hone : (1 : UInt64).toNat = 1 := rfl
  rw [UInt64.toNat_add, hone]
  omega

theorem complete (h : Traced past e) {node : Node}
    (hcount : (past.map Prod.fst).count node + 1 < 2 ^ 64) :
    Traced (past ++ [(node, e.generation node + 1)]) (e.complete node) := by
  have hnext := h.toNat_generation_add_one hcount
  constructor
  · intro n
    rw [generation_complete, List.map_append, List.count_append, ← h.generation]
    by_cases he : node = n
    · subst he
      rw [if_pos rfl, hnext]
      simp
    · rw [if_neg he]
      simp [he]
  · intro n g hm
    rw [generation_complete]
    obtain hm | hm := List.mem_append.1 hm
    · have hle := UInt64.le_iff_toNat_le.1 (h.le hm)
      by_cases he : node = n
      · subst he
        rw [if_pos rfl, UInt64.le_iff_toNat_le, hnext]
        omega
      · rw [if_neg he]
        exact h.le hm
    · cases List.mem_singleton.1 hm
      rw [if_pos rfl]
      exact UInt64.le_refl _
  · intro n digest hv
    rw [value?_complete] at hv
    rw [generation_complete]
    by_cases he : node = n
    · subst he
      rw [if_pos rfl] at hv ⊢
      exact ⟨List.mem_append_right _ List.mem_cons_self, (Option.some.inj hv).symm⟩
    · rw [if_neg he] at hv ⊢
      obtain ⟨hm, hd⟩ := h.value hv
      exact ⟨List.mem_append_left _ hm, hd⟩

theorem restart (h : Traced past e) (r : Restart) : Traced past (e.restart r).2 := by
  constructor
  · intro n
    rw [generation_restart]
    exact h.generation n
  · intro n g hm
    rw [generation_restart]
    exact h.le hm
  · intro n digest hv
    rw [value?_restart] at hv
    rw [generation_restart]
    by_cases hn : n ∈ r.nodes
    · rw [if_pos hn] at hv
      cases hv
    · rw [if_neg hn] at hv
      exact h.value hv

end Evaluation.Traced

namespace Session

open Evaluation

variable {past : List (Node × UInt64)}

theorem traced_make {s : Session} (h : Traced past s.build.evaluation) (move : Move)
    (hcount : ∀ node, (past.map Prod.fst ++ move.completed?.toList).count node < 2 ^ 64) :
    Traced (past ++ s.hashes move) (s.make move).build.evaluation := by
  cases move with
  | begin | cancel =>
    rw [hashes_of_completed? rfl, List.append_nil]
    exact h
  | complete node =>
    have hnode := hcount node
    rw [List.count_append] at hnode
    exact h.complete (by simpa [Move.completed?] using hnode)
  | handle key loss =>
    rw [hashes_of_completed? rfl, List.append_nil]
    show Traced past (s.handle key loss).2.build.evaluation
    obtain he | ⟨r, he⟩ := s.evaluation_handle key loss
    · rwa [he]
    · rw [he]
      exact h.restart r

/-- The nodes completed by a move count for what comes after it. -/
theorem count_lt_of_cons (s : Session) {move : Move} {moves : List Move}
    (hcount : ∀ node, (past.map Prod.fst ++ completed (move :: moves)).count node < 2 ^ 64) :
    (∀ node, (past.map Prod.fst ++ move.completed?.toList).count node < 2 ^ 64) ∧
      ∀ node, ((past ++ s.hashes move).map Prod.fst ++ completed moves).count node < 2 ^ 64 := by
  rw [completed_cons] at hcount
  refine ⟨fun node => ?_, fun node => ?_⟩
  · have hnode := hcount node
    rw [← List.append_assoc, List.count_append] at hnode
    omega
  · rw [List.map_append, map_fst_hashes, List.append_assoc]
    exact hcount node

/-- **All values are hashed in the run.** -/
theorem traced_play {s : Session} (h : Traced past s.build.evaluation) (moves : List Move)
    (hcount : ∀ node, (past.map Prod.fst ++ completed moves).count node < 2 ^ 64) :
    Traced (past ++ s.hashed moves) (s.play moves).build.evaluation := by
  induction moves generalizing s past with
  | nil =>
    rw [show s.hashed [] = [] from rfl, List.append_nil]
    exact h
  | cons move moves ih =>
    obtain ⟨hmove, hmoves⟩ := count_lt_of_cons s hcount
    rw [hashed_cons, play_cons, ← List.append_assoc]
    exact ih (traced_make h move hmove) hmoves

/-- Where nothing has happened before, this is so from the start. -/
theorem traced_blank (c : Config) (reporter : Reporter) (maxRewinds : UInt32) (moves : List Move)
    (hcount : ∀ node, (completed moves).count node < 2 ^ 64) :
    Traced ((blank c reporter maxRewinds).hashed moves)
      ((blank c reporter maxRewinds).play moves).build.evaluation := by
  have hstart : Traced [] (blank c reporter maxRewinds).build.evaluation := .empty
  exact traced_play hstart moves hcount

end Session

/-! ### What has been lost -/

/-- The digests that `key` lost are values of artifacts that are not done, or have been completed once
more since. -/
def Build.Superseded (past : List (Node × UInt64)) (key : ActionKey) (b : Build) : Prop :=
  ∀ digest, ⟨key, digest⟩ ∈ b.history → ∃ path g, (.artifact path, g) ∈ past ∧
    digest = Evaluation.valueAt (.artifact path) g ∧
    (b.evaluation.isDone (.artifact path) = true → g < b.evaluation.generation (.artifact path))

namespace Session

open Evaluation

variable {past : List (Node × UInt64)} {c : Config} {key : ActionKey}

/-- **A move keeps lost digests superseded**, where the losses of the action are repaired. -/
theorem superseded_make {s : Session} (hg : s.graph = .ofConfig c)
    (ht : Traced past s.build.evaluation) (h : s.build.Superseded past key) (move : Move)
    (hcount : ∀ node, (past.map Prod.fst ++ move.completed?.toList).count node < 2 ^ 64)
    (hmove : ∀ loss, move = .handle key loss →
      s.Current key loss ∧ ∃ o, (s.handle key loss).1 = .ok o) :
    (s.make move).build.Superseded (past ++ s.hashes move) key := by
  intro digest hd
  cases move with
  | begin => exact absurd hd Std.ExtTreeSet.not_mem_empty
  | cancel =>
    rw [hashes_of_completed? rfl, List.append_nil]
    exact h digest hd
  | complete node =>
    obtain ⟨path, g, hm, hv, hlt⟩ := h digest hd
    refine ⟨path, g, List.mem_append_left _ hm, hv, fun hdone => ?_⟩
    show g < (s.build.evaluation.complete node).generation _
    rw [generation_complete]
    by_cases he : node = .artifact path
    -- the artifact is completed once more
    · subst he
      have hnode := hcount (.artifact path)
      rw [List.count_append] at hnode
      have hnext := ht.toNat_generation_add_one (by simpa [Move.completed?] using hnode)
      have hle := UInt64.le_iff_toNat_le.1 (ht.le hm)
      rw [if_pos rfl, UInt64.lt_iff_toNat_lt, hnext]
      omega
    · rw [if_neg he]
      exact hlt ((isDone_complete.1 hdone).resolve_left he)
  | handle k loss =>
    rw [hashes_of_completed? rfl, List.append_nil]
    by_cases hold : ⟨key, digest⟩ ∈ s.build.history
    case pos =>
      obtain ⟨path, g, hm, hv, hlt⟩ := h digest hold
      refine ⟨path, g, hm, hv, fun hdone => ?_⟩
      show g < (s.handle k loss).2.build.evaluation.generation _
      rw [generation_handle]
      exact hlt (isDone_of_handle hdone)
    -- what is lost now has a value, and is not done afterwards
    case neg =>
      have hk : key = k := (mem_history_handle hd).resolve_left hold
      subst hk
      obtain ⟨hcurrent, o, ho⟩ := hmove loss rfl
      obtain ⟨-, hd⟩ := ((applied_handle ho).mem_history.1 hd).resolve_left hold
      obtain ⟨action, a, hk, hi, hl, hv⟩ := hcurrent.exists_value hd
      obtain ⟨hm, hv⟩ := ht.value hv
      refine ⟨a.path, _, hm, hv, fun hdone => ?_⟩
      have hnot := Current.isDone_handle hg ho hk hi hl
      rw [show a.node = .artifact a.path from rfl] at hnot
      rw [show (s.make (.handle key loss)).build = (s.handle key loss).2.build from rfl, hnot] at hdone
      cases hdone

/-- In a run all losses of inputs of `key` are current when they are reported, and are repaired. -/
def Repairs (key : ActionKey) (s : Session) : List Move → Prop
  | [] => True
  | move :: moves => (∀ loss, move = .handle key loss →
      s.Current key loss ∧ ∃ o, (s.handle key loss).1 = .ok o) ∧ (s.make move).Repairs key moves

/-- **A run keeps lost digests superseded.** -/
theorem superseded_play {s : Session} (hg : s.graph = .ofConfig c)
    (ht : Traced past s.build.evaluation) (h : s.build.Superseded past key) (moves : List Move)
    (hcount : ∀ node, (past.map Prod.fst ++ completed moves).count node < 2 ^ 64)
    (hr : s.Repairs key moves) :
    (s.play moves).build.Superseded (past ++ s.hashed moves) key := by
  induction moves generalizing s past with
  | nil =>
    rw [show s.hashed [] = [] from rfl, List.append_nil]
    exact h
  | cons move moves ih =>
    obtain ⟨hmove, hmoves⟩ := count_lt_of_cons s hcount
    rw [hashed_cons, play_cons, ← List.append_assoc]
    exact ih (by rw [graph_make, hg]) (traced_make ht move hmove)
      (superseded_make hg ht h move hmove hr.1) hmoves hr.2

/-- A current loss is none that was recorded, as its values are of the present generations. -/
theorem Current.notMem_history {s : Session} {loss : Loss} (hcurrent : s.Current key loss)
    (hapart : Apart past) (ht : Traced past s.build.evaluation) (h : s.build.Superseded past key) :
    ∀ digest ∈ loss.digests, ⟨key, digest⟩ ∉ s.build.history := by
  intro digest hd hm
  obtain ⟨action, a, -, -, -, hv⟩ := hcurrent.exists_value hd
  have hdone : s.build.evaluation.isDone a.node = true := by
    unfold isDone
    rw [decide_eq_true_eq, Std.ExtTreeMap.mem_iff_isSome_getElem?]
    exact Option.isSome_iff_exists.2 ⟨digest, hv⟩
  obtain ⟨hpresent, hv⟩ := ht.value hv
  obtain ⟨path, g, hpast, hv', hlt⟩ := h digest hm
  obtain ⟨rfl, rfl⟩ := eq_of_valueBytes_artifact (hapart _ hpast _ hpresent (hv'.symm.trans hv))
  exact absurd (hlt hdone) (UInt64.lt_irrefl _)

/-- **Repaired losses do not look repeated.** In a run in which all earlier losses of inputs of an
action, since the build began, were current and have been repaired, a current loss is not found to be a
repeated one, and no defect is reported. Hashes must not collide in the run, and no node may be completed
so often that its counter overflows. -/
theorem current_not_repeated (c : Config) (reporter : Reporter) (maxRewinds : UInt32)
    (earlier moves : List Move) (key : ActionKey) (loss : Loss)
    (hapart : Apart ((blank c reporter maxRewinds).hashed (earlier ++ .begin :: moves)))
    (hcount : ∀ node, (completed (earlier ++ .begin :: moves)).count node < 2 ^ 64)
    (hrepairs : ((blank c reporter maxRewinds).play (earlier ++ [.begin])).Repairs key moves)
    (hcurrent : ((blank c reporter maxRewinds).play (earlier ++ .begin :: moves)).Current key loss) :
    (∀ stop, (((blank c reporter maxRewinds).play (earlier ++ .begin :: moves)).handle key loss).1 =
      .error stop → stop.fault? ≠ some .repeatedLoss) ∧
    ((blank c reporter maxRewinds).play (earlier ++ .begin :: moves)).reported key loss = [] := by
  have hsplit : earlier ++ .begin :: moves = (earlier ++ [.begin]) ++ moves := by simp
  have htraced := traced_blank c reporter maxRewinds _ hcount
  rw [hsplit] at hapart hcurrent htraced hcount ⊢
  rw [hashed_append] at hapart htraced
  rw [play_append _ (earlier ++ [Move.begin]) moves] at hcurrent htraced ⊢
  have hbegun : ∀ node, (completed (earlier ++ [.begin])).count node < 2 ^ 64 := by
    intro node
    have hnode := hcount node
    rw [completed_append, List.count_append] at hnode
    omega
  have htraced' := traced_blank c reporter maxRewinds _ hbegun
  -- when the build begins, nothing has been lost
  have hstart : ((blank c reporter maxRewinds).play (earlier ++ [.begin])).build.Superseded
      ((blank c reporter maxRewinds).hashed (earlier ++ [.begin])) key := by
    intro digest hd
    rw [play_append] at hd
    exact absurd hd Std.ExtTreeSet.not_mem_empty
  have hsuperseded := superseded_play (graph_play _ _) htraced' hstart moves
    (by rwa [map_fst_hashed, ← completed_append]) hrepairs
  generalize ((blank c reporter maxRewinds).play (earlier ++ [.begin])).play moves = s at *
  have hnew := hcurrent.notMem_history hapart htraced hsuperseded
  refine ⟨(handle_of_fresh hnew hcurrent.exists_artifact).1, ?_⟩
  -- whether reports are kept does not matter
  rw [← reports_handle_keeping]
  exact (handle_of_fresh (s := s.keeping) hnew hcurrent.exists_artifact).2

end Session

/-- One action reads what another one makes. -/
def Description.chain : Description where
  actions := Std.ExtTreeMap.ofList
    [("//p#0", { inputs := ["src/x"], outputs := ["out/x"] }),
     ("//f#0", ({ inputs := ["out/x"], outputs := ["out/f"] } : ActionSection))]

/-- The action that reads it. -/
def Action.reader : Action where
  key := ⟨"//f", 0⟩
  inputs := [⟨"out/x", .derived⟩]
  outputs := [⟨"out/f", .derived⟩]

/-- The loss of the artifact between them, under its first value. -/
def Loss.first : Loss := .ofEntries ""
  [("7c0811e30f5d71cae2774462202bf990a5fef28e0d1153df10fdb9ff90b7d05b", .artifact ⟨"out/x", .derived⟩)] ∅

/-- The loss of the same artifact, made again. -/
def Loss.second : Loss := .ofEntries ""
  [("8b4a8713b6d9a4c207eb4239a9df12fe97940f6a52fb6caa4e2e0e36397fe16e", .artifact ⟨"out/x", .derived⟩)] ∅

namespace Session

open Evaluation

def chained : Session := blank Description.chain.accepted .panic 10

/-- The artifact was made before the build began, and is made again in it. -/
def remaking : List Move := [.handle ⟨"//f", 0⟩ .first, .complete (.artifact "out/x")]

theorem current_not_repeated_chain :
    (chained.play ([.complete (.artifact "out/x")] ++ [.begin])).Repairs ⟨"//f", 0⟩ remaking ∧
    (chained.play ([.complete (.artifact "out/x")] ++ .begin :: remaking)).Current
      ⟨"//f", 0⟩ .second ∧
    (chained.play ([.complete (.artifact "out/x")] ++ .begin :: remaking)).reported
      ⟨"//f", 0⟩ .second = [] := by
  have hfirst : valueAt (.artifact "out/x") 1 =
    "7c0811e30f5d71cae2774462202bf990a5fef28e0d1153df10fdb9ff90b7d05b" := by decide +kernel
  have hsecond : valueAt (.artifact "out/x") 2 =
    "8b4a8713b6d9a4c207eb4239a9df12fe97940f6a52fb6caa4e2e0e36397fe16e" := by decide +kernel
  have hhashed : chained.hashed ([.complete (.artifact "out/x")] ++ .begin :: remaking) =
    [(.artifact "out/x", 1), (.artifact "out/x", 2)] := by decide +kernel
  have hapart : Apart (chained.hashed ([.complete (.artifact "out/x")] ++ .begin :: remaking)) := by
    rw [hhashed]
    intro p hp q hq he
    simp only [List.mem_cons, List.not_mem_nil, or_false] at hp hq
    obtain rfl | rfl := hp <;> obtain rfl | rfl := hq
    · rfl
    · rw [hfirst, hsecond] at he
      exact absurd he (by decide)
    · rw [hfirst, hsecond] at he
      exact absurd he (by decide)
    · rfl
  have hcount : ∀ node, (completed ([.complete (.artifact "out/x")] ++ .begin :: remaking)).count
      node < 2 ^ 64 := fun node => lt_of_le_of_lt List.count_le_length (by decide)
  have hrepairs : (chained.play ([.complete (.artifact "out/x")] ++ [.begin])).Repairs
      ⟨"//f", 0⟩ remaking := by
    refine ⟨?_, nofun, trivial⟩
    rintro loss he
    cases he
    exact ⟨⟨.reader, by decide +kernel, by decide +kernel⟩, exists_eq_ok (by decide +kernel)⟩
  have hcurrent : (chained.play ([.complete (.artifact "out/x")] ++ .begin :: remaking)).Current
    ⟨"//f", 0⟩ .second := ⟨.reader, by decide +kernel, by decide +kernel⟩
  exact ⟨hrepairs, hcurrent, (current_not_repeated Description.chain.accepted .panic 10 _ remaking _ _
    hapart hcount hrepairs hcurrent).2⟩

end Session

end Rewinding
