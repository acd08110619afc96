import Rewinding.Proofs.Isolation
import Rewinding.Proofs.Recording
import Rewinding.Proofs.Trace

/-!
# The history of losses

The history is used in three ways: a loss is recorded, all losses of an action are checked, or the history
is reset. A check records what it checks as it goes, so one that fails leaves something behind, which is
found by later ones. Yet the history is always what has been put in since it was last reset
(`mem_history_useAll`), and nothing is put in twice (`history_of_uses`).

What is put in is read off the trace of a run (`Procedure.inserted`); no computation whatever changes the
history in another way (`Build.mem_history_run`).
-/

namespace Rewinding

open Procedure Planning

variable {known : List Action} {α σ : Type} {g : Graph} {reporter : Reporter}

/-! ### What a loss lists -/

/-- What stands before a digest in a loss are the lower ones. -/
theorem Loss.mem_before_iff {loss : Loss} {before after : List (String × Input)} {digest d : String}
    {input : Input} (h : loss.lost.toList = before ++ (digest, input) :: after) :
    d ∈ before.map Prod.fst ↔ d ∈ loss.digests ∧ d < digest := by
  constructor
  · intro hd
    refine ⟨?_, lt_of_toList_eq h hd⟩
    unfold digests
    rw [h, List.map_append]
    exact List.mem_append_left _ hd
  · rintro ⟨hd, hlt⟩
    unfold digests at hd
    rw [h, List.map_append, List.map_cons, List.mem_append, List.mem_cons] at hd
    obtain hd | rfl | hd := hd
    · exact hd
    · exact absurd hlt (lt_irrefl _)
    · obtain ⟨⟨d, input'⟩, he, rfl⟩ := List.mem_map.1 hd
      obtain ⟨middle, rest, rfl⟩ := List.append_of_mem he
      rw [← List.cons_append, ← List.append_assoc] at h
      have hgt : digest < d := lt_of_toList_eq h (by simp)
      exact absurd hlt (lt_asymm hgt)

/-! ### What a run puts into the history -/

/-- The loss that a step put into the history: the one that it recorded, if that was new. -/
def Answered.inserted? : Answered known → Option LossRecord
  | ⟨.record key digest, isNew⟩ => if isNew then some ⟨key, digest⟩ else none
  | _ => none

/-- What a run puts into the history, in order. -/
def Procedure.inserted (world : World known σ) (p : Procedure known α) (s : σ) : List LossRecord :=
  (p.trace world s).filterMap Answered.inserted?

theorem Procedure.inserted_ask (world : World known σ) (step : Step known)
    (next : step.Answer → Procedure known α) (s : σ) :
    (ask step next).inserted world s =
      (Answered.inserted? ⟨step, (world.answer step s).1⟩).toList ++
        (next (world.answer step s).1).inserted world (world.answer step s).2 := by
  unfold inserted
  rw [trace, List.filterMap_cons]
  split <;> rename_i he <;> rw [he] <;> rfl

namespace Build

/-- A step of a build puts in what it records, unless that is there. -/
theorem inserted?_answer {step : Step g.roster} {b : Build} {l : LossRecord} :
    Answered.inserted? ⟨step, ((world g reporter).answer step b).1⟩ = some l ↔
      step.recorded? = some l ∧ l ∉ b.history := by
  cases step with
  | record key digest =>
    show (if decide (⟨key, digest⟩ ∉ b.history) = true then some (⟨key, digest⟩ : LossRecord) else none) =
      some l ↔ some (⟨key, digest⟩ : LossRecord) = some l ∧ l ∉ b.history
    simp only [decide_eq_true_eq]
    constructor
    · intro h
      split at h
      case isTrue hnew =>
        cases h
        exact ⟨rfl, hnew⟩
      case isFalse => cases h
    · rintro ⟨h, hnew⟩
      cases h
      exact if_pos hnew
  | interrupted | discover _ | lookup _ | report _ | attempt _ | invalidate _ | evict _ =>
    exact iff_of_false nofun fun h => nomatch h.1

/-- A run adds to the history what it puts in, and nothing else. -/
theorem mem_history_run (p : Procedure g.roster α) (b : Build) {l : LossRecord} :
    l ∈ (p.run (world g reporter) b).2.history ↔
      l ∈ p.inserted (world g reporter) b ∨ l ∈ b.history := by
  induction p generalizing b with
  | done value => exact (or_iff_right List.not_mem_nil).symm
  | ask step next ih =>
    rw [run_ask, ih, mem_history_answer, inserted_ask, List.mem_append, Option.mem_toList,
      inserted?_answer]
    by_cases hl : l ∈ b.history
    · simp [hl]
    · simp [hl, or_comm]

/-- What a run puts in is new, and is put in once. -/
theorem nodup_inserted (p : Procedure g.roster α) (b : Build) :
    (p.inserted (world g reporter) b).Nodup ∧ ∀ l ∈ p.inserted (world g reporter) b, l ∉ b.history := by
  induction p generalizing b with
  | done value => exact ⟨List.nodup_nil, fun _ hl => absurd hl List.not_mem_nil⟩
  | ask step next ih =>
    obtain ⟨hnodup, hnew⟩ := ih ((world g reporter).answer step b).1
      ((world g reporter).answer step b).2
    have hstep {l : LossRecord}
        (hl : l ∈ (Answered.inserted? ⟨step, ((world g reporter).answer step b).1⟩).toList) :
        step.recorded? = some l ∧ l ∉ b.history := by
      rw [Option.mem_toList] at hl
      exact inserted?_answer.1 hl
    rw [inserted_ask, List.nodup_append]
    refine ⟨⟨Option.toList_nodup _, hnodup, ?_⟩, fun l hl => ?_⟩
    -- what the step recorded is there for the rest of the run
    · rintro l hl l' hl' rfl
      exact hnew l hl' ((mem_history_answer step b).2 (Or.inr (hstep hl).1))
    · obtain hl | hl := List.mem_append.1 hl
      · exact (hstep hl).2
      · exact fun hb => hnew l hl ((mem_history_answer step b).2 (Or.inl hb))

end Build

/-! ### Uses of the history -/

/-- A use of the history of losses. -/
inductive HistoryUse where
  | record (l : LossRecord)
  /-- Check that an action loses no input for the second time, where defects go to a reporter. -/
  | check (reporter : Reporter) (failed : Action) (key : ActionKey) (loss : Loss)
  | reset

namespace Build

/-- Record a loss, and tell whether it is new. -/
def recordNew (g : Graph) (l : LossRecord) (b : Build) : Bool × Build :=
  (Procedure.step (.record l.key l.digest)).run (world g .log) b

/-- Check the losses of `key`. -/
def check (g : Graph) (reporter : Reporter) (failed : Action) (key : ActionKey) (loss : Loss)
    (b : Build) : Except Stop Unit × Build :=
  exec (world g reporter) (checkNotRepeated failed key loss) b

/-- What a check of the losses of `key` reports. -/
def reportsOfCheck (g : Graph) (reporter : Reporter) (failed : Action) (key : ActionKey) (loss : Loss)
    (b : Build) : List String :=
  (checkNotRepeated failed key loss).run.reports (world g reporter) b

/-- The build after a use of its history. -/
def use (g : Graph) (b : Build) : HistoryUse → Build
  | .record l => (b.recordNew g l).2
  | .check reporter failed key loss => (b.check g reporter failed key loss).2
  | .reset => b.resetHistory

def useAll (g : Graph) (b : Build) (uses : List HistoryUse) : Build := uses.foldl (use g) b

/-- What a use of the history puts in. -/
def insertedBy (g : Graph) (b : Build) : HistoryUse → List LossRecord
  | .record l => (Procedure.step (.record l.key l.digest)).inserted (world g .log) b
  | .check reporter failed key loss => (checkNotRepeated failed key loss).run.inserted (world g reporter) b
  | .reset => []

/-- Whether a use of the history takes a loss to be new: it was recorded as such, or it is among those of
a check that found no repetition. -/
def Accepts (g : Graph) (b : Build) (l : LossRecord) : HistoryUse → Prop
  | .record other => other = l ∧ (b.recordNew g other).1 = true
  | .check reporter failed key loss =>
    l.key = key ∧ l.digest ∈ loss.digests ∧ (b.check g reporter failed key loss).1 = .ok ()
  | .reset => False

variable {b : Build} {l : LossRecord}

/-! ### One use -/

/-- A use adds to the history what it puts in, and only a reset takes something away. -/
theorem mem_history_use (use : HistoryUse) :
    l ∈ (b.use g use).history ↔ l ∈ b.insertedBy g use ∨ l ∈ b.history ∧ use ≠ .reset := by
  cases use with
  | record other =>
    rw [and_iff_left nofun]
    exact mem_history_run ..
  | check reporter failed key loss =>
    rw [and_iff_left nofun]
    exact mem_history_run ..
  | reset =>
    refine iff_of_false Std.ExtTreeSet.not_mem_empty ?_
    rintro (hl | ⟨-, hne⟩)
    · cases hl
    · exact hne rfl

theorem nodup_insertedBy (use : HistoryUse) :
    (b.insertedBy g use).Nodup ∧ ∀ l ∈ b.insertedBy g use, l ∉ b.history := by
  cases use with
  | record _ => exact nodup_inserted ..
  | check _ _ _ _ => exact nodup_inserted ..
  | reset => exact ⟨List.nodup_nil, fun _ hl => absurd hl List.not_mem_nil⟩

theorem recordNew_fst : (b.recordNew g l).1 = true ↔ l ∉ b.history := decide_eq_true_iff

theorem mem_history_recordNew {other : LossRecord} :
    other ∈ (b.recordNew g l).2.history ↔ other = l ∨ other ∈ b.history :=
  mem_history_record.trans (or_congr_left eq_comm)

theorem of_withReports_eq {b b' : Build} {kept : List String} (h : b.withReports kept = b') :
    b.history = b'.history ∧ kept = b'.reports := by
  subst h
  exact ⟨rfl, rfl⟩

/-- **How a check ends.** Either all losses are new, and all are put in; or one is not, and those of lower
digests than the first such one are put in, and this one is reported. -/
theorem check_cases (reporter : Reporter) (failed : Action) (key : ActionKey) (loss : Loss) :
    ((∀ digest ∈ loss.digests, ⟨key, digest⟩ ∉ b.history) ∧
      (b.check g reporter failed key loss).1 = .ok () ∧
      (∀ l, l ∈ (b.check g reporter failed key loss).2.history ↔
        l ∈ b.history ∨ l.key = key ∧ l.digest ∈ loss.digests) ∧
      b.reportsOfCheck g reporter failed key loss = []) ∨
    ∃ digest input, loss.lost[digest]? = some input ∧ ⟨key, digest⟩ ∈ b.history ∧
      (∀ d ∈ loss.digests, d < digest → ⟨key, d⟩ ∉ b.history) ∧
      (b.check g reporter failed key loss).1 = .error (reporter.stop (repeatReport key digest input)
        (failureOf failed key .repeatedLoss loss)) ∧
      (∀ l, l ∈ (b.check g reporter failed key loss).2.history ↔
        l ∈ b.history ∨ l.key = key ∧ l.digest ∈ loss.digests ∧ l.digest < digest) ∧
      b.reportsOfCheck g reporter failed key loss = [repeatReport key digest input] := by
  -- a reporter that keeps its reports shows them, and changes nothing else
  have hkept := run_keeping (g := g) reporter (checkNotRepeated failed key loss).run b []
  obtain ⟨hnew, t, hexec, ht, -⟩ | ⟨before, digest, input, after, hsplit, hnew, hold, t, hexec, ht, -⟩ :=
    exec_recordAll (files_world g reporter.keeping) failed key loss (nodup_digests loss)
      (b.withReports [])
  · obtain ⟨hresult, hbuild⟩ := Prod.mk.inj (hkept.symm.trans hexec)
    obtain ⟨hhistory, hreports⟩ := of_withReports_eq (hbuild.trans ht)
    refine Or.inl ⟨?_, hresult, fun l => ?_, ?_⟩
    · intro digest hd
      obtain ⟨e, he, rfl⟩ := List.mem_map.1 hd
      exact hnew e he
    · show l ∈ ((checkNotRepeated failed key loss).run.run (world g reporter) b).2.history ↔ _
      rw [hhistory]
      exact mem_history_recordEach
    · exact hreports.trans (reports_recordEach ..)
  · obtain ⟨hresult, hbuild⟩ := Prod.mk.inj (hkept.symm.trans hexec)
    obtain ⟨hhistory, hreports⟩ := of_withReports_eq (hbuild.trans ht)
    refine Or.inr ⟨digest, input, ?_, hold, ?_, hresult, fun l => ?_, ?_⟩
    · rw [← Std.ExtTreeMap.mem_toList_iff_getElem?_eq_some, hsplit]
      exact List.mem_append_right _ List.mem_cons_self
    · intro d hd hlt
      obtain ⟨e, he, rfl⟩ := List.mem_map.1 ((Loss.mem_before_iff hsplit).2 ⟨hd, hlt⟩)
      exact hnew e he
    · show l ∈ ((checkNotRepeated failed key loss).run.run (world g reporter) b).2.history ↔ _
      rw [hhistory, ← Loss.mem_before_iff hsplit]
      exact mem_history_recordEach
    · exact hreports.trans <| congrArg (· ++ [repeatReport key digest input]) (reports_recordEach ..)

/-! ### All uses -/

/-- The history holds what has been put in by some use and not been reset since. -/
theorem mem_history_useAll (uses : List HistoryUse) :
    l ∈ (b.useAll g uses).history ↔
      (∃ before use after, uses = before ++ use :: after ∧ .reset ∉ after ∧
        l ∈ (b.useAll g before).insertedBy g use) ∨
      l ∈ b.history ∧ .reset ∉ uses := by
  induction uses generalizing b with
  | nil =>
    constructor
    · exact fun hl => Or.inr ⟨hl, List.not_mem_nil⟩
    · rintro (⟨before, use, after, h, -⟩ | ⟨hl, -⟩)
      · exact absurd h.symm (List.append_ne_nil_of_right_ne_nil _ (List.cons_ne_nil _ _))
      · exact hl
  | cons first uses ih =>
    show l ∈ ((b.use g first).useAll g uses).history ↔ _
    rw [ih, mem_history_use, List.mem_cons, not_or]
    constructor
    · rintro (⟨before, use, after, rfl, hreset, hl⟩ | ⟨hl | ⟨hl, hfirst⟩, hreset⟩)
      · exact Or.inl ⟨first :: before, use, after, rfl, hreset, hl⟩
      · exact Or.inl ⟨[], first, uses, rfl, hreset, hl⟩
      · exact Or.inr ⟨hl, hfirst.symm, hreset⟩
    · rintro (⟨before, use, after, h, hreset, hl⟩ | ⟨hl, hfirst, hreset⟩)
      · cases before with
        | nil =>
          cases h
          exact Or.inr ⟨Or.inl hl, hreset⟩
        | cons _ before =>
          cases h
          exact Or.inl ⟨before, use, after, rfl, hreset, hl⟩
      · exact Or.inr ⟨Or.inr ⟨hl, Ne.symm hfirst⟩, hreset⟩

/-- What a use takes to be new it puts in. -/
theorem Accepts.mem_insertedBy {use : HistoryUse} (h : b.Accepts g l use) : l ∈ b.insertedBy g use := by
  have hnew : l ∉ b.history ∧ l ∈ (b.use g use).history := by
    cases use with
    | record other =>
      obtain ⟨rfl, hnew⟩ := h
      exact ⟨recordNew_fst.1 hnew, mem_history_recordNew.2 (Or.inl rfl)⟩
    | check reporter failed key loss =>
      obtain ⟨rfl, hd, hok⟩ := h
      obtain ⟨hnew, -, hadded, -⟩ | ⟨_, _, _, _, _, herror, _⟩ :=
        b.check_cases (g := g) reporter failed _ loss
      · exact ⟨hnew _ hd, (hadded l).2 (Or.inr ⟨rfl, hd⟩)⟩
      · rw [hok] at herror
        cases herror
    | reset => exact h.elim
  exact ((mem_history_use use).1 hnew.2).resolve_right fun hold => hnew.1 hold.1

/-- What the next use of the history of a build tells, and what it makes of the history. -/
structure NextUse (g : Graph) (b : Build) : Prop where
  record (l : LossRecord) : (b.recordNew g l).1 = true ↔ l ∉ b.history
  recorded (l other : LossRecord) :
    other ∈ (b.recordNew g l).2.history ↔ other = l ∨ other ∈ b.history
  check (reporter : Reporter) (failed : Action) (key : ActionKey) (loss : Loss) :
    (b.check g reporter failed key loss).1 = .ok () ↔
      ∀ digest ∈ loss.digests, ⟨key, digest⟩ ∉ b.history
  checked (reporter : Reporter) (failed : Action) (key : ActionKey) (loss : Loss) :
    (b.check g reporter failed key loss).1 = .ok () →
    (∀ l, l ∈ (b.check g reporter failed key loss).2.history ↔
      l ∈ b.history ∨ l.key = key ∧ l.digest ∈ loss.digests) ∧
    b.reportsOfCheck g reporter failed key loss = []
  /-- A check that fails does so for the lowest digest that is in the history, and has put in those below
  it. -/
  repeated (reporter : Reporter) (failed : Action) (key : ActionKey) (loss : Loss) :
    (b.check g reporter failed key loss).1 ≠ .ok () →
    ∃ digest input, loss.lost[digest]? = some input ∧ ⟨key, digest⟩ ∈ b.history ∧
      (∀ d ∈ loss.digests, d < digest → ⟨key, d⟩ ∉ b.history) ∧
      (b.check g reporter failed key loss).1 = .error (reporter.stop (repeatReport key digest input)
        (failureOf failed key .repeatedLoss loss)) ∧
      (∀ l, l ∈ (b.check g reporter failed key loss).2.history ↔
        l ∈ b.history ∨ l.key = key ∧ l.digest ∈ loss.digests ∧ l.digest < digest) ∧
      b.reportsOfCheck g reporter failed key loss = [repeatReport key digest input]
  others (reporter : Reporter) (failed : Action) (key : ActionKey) (loss : Loss) (l : LossRecord) :
    l.key ≠ key → (l ∈ (b.check g reporter failed key loss).2.history ↔ l ∈ b.history)

theorem nextUse (g : Graph) (b : Build) : b.NextUse g where
  record _ := recordNew_fst
  recorded _ _ := mem_history_recordNew
  check reporter failed key loss := by
    obtain ⟨hnew, hok, -⟩ | ⟨digest, input, hlost, hold, -, herror, -⟩ :=
      b.check_cases (g := g) reporter failed key loss
    · exact iff_of_true hok hnew
    · refine iff_of_false (by rw [herror]; nofun) fun hnew => hnew digest ?_ hold
      exact List.mem_map_of_mem (f := Prod.fst) (Std.ExtTreeMap.mem_toList_iff_getElem?_eq_some.2 hlost)
  checked reporter failed key loss hok := by
    obtain ⟨-, -, hadded, hreports⟩ | ⟨_, _, _, _, _, herror, _⟩ :=
      b.check_cases (g := g) reporter failed key loss
    · exact ⟨hadded, hreports⟩
    · rw [hok] at herror
      cases herror
  repeated reporter failed key loss hne :=
    (b.check_cases reporter failed key loss).resolve_left fun h => hne h.2.1
  others reporter failed key loss l hkey := by
    obtain ⟨-, -, hadded, -⟩ | ⟨_, _, _, _, _, _, hadded, _⟩ :=
      b.check_cases (g := g) reporter failed key loss
    · rw [hadded, or_iff_left fun h => hkey h.1]
    · rw [hadded, or_iff_left fun h => hkey h.1]

/-- **The history over a build.** However it has been used since it was new, the history is what has been
put in since the last reset; this decides what the next use tells and what is put in by it. A loss that a
use takes to be new is put in, and what is put in is not put in again, nor taken to be new, until the next
reset. -/
theorem history_of_uses (g : Graph) (b : Build) (uses : List HistoryUse) :
    let now := b.resetHistory.useAll g uses
    (∀ l, l ∈ now.history ↔ ∃ before use after, uses = before ++ use :: after ∧ .reset ∉ after ∧
      l ∈ (b.resetHistory.useAll g before).insertedBy g use) ∧
    now.NextUse g ∧
    ∀ l use, (now.Accepts g l use → l ∈ now.insertedBy g use) ∧ (now.insertedBy g use).Nodup ∧
      ∀ between later, l ∈ now.insertedBy g use → .reset ∉ between →
        l ∉ ((now.use g use).useAll g between).insertedBy g later ∧
        ¬((now.use g use).useAll g between).Accepts g l later := by
  refine ⟨fun l => ?_, nextUse g _, fun l use => ⟨Accepts.mem_insertedBy, (nodup_insertedBy use).1, ?_⟩⟩
  · rw [mem_history_useAll, or_iff_left fun h => Std.ExtTreeSet.not_mem_empty h.1]
  · intro between later hl hreset
    have hkept : l ∈ ((b.resetHistory.useAll g uses).use g use |>.useAll g between).history :=
      (mem_history_useAll between).2 (Or.inr ⟨(mem_history_use use).2 (Or.inl hl), hreset⟩)
    have hold : l ∉ ((b.resetHistory.useAll g uses).use g use |>.useAll g between).insertedBy g later :=
      fun hagain => (nodup_insertedBy later).2 l hagain hkept
    exact ⟨hold, fun haccepts => hold haccepts.mem_insertedBy⟩

/-- The losses of three inputs. -/
def threefold : Loss := .ofEntries "" [("1", .virtual "x"), ("2", .virtual "y"), ("3", .virtual "z")] ∅

/-- Of three losses the second was recorded before, and so was the first, but that has been reset. A check
of the three puts in the first one, which then is not new any more, and not the third one. -/
theorem history_of_uses_threefold :
    let now := ({} : Build).resetHistory.useAll vacant
      [.record ⟨⟨"//f", 0⟩, "1"⟩, .reset, .record ⟨⟨"//f", 0⟩, "2"⟩]
    let after := now.check vacant .log { key := ⟨"//f", 0⟩ } ⟨"//f", 0⟩ threefold
    after.1 ≠ .ok () ∧
    ⟨⟨"//f", 0⟩, "1"⟩ ∈ after.2.history ∧ ⟨⟨"//f", 0⟩, "3"⟩ ∉ after.2.history ∧
    now.reportsOfCheck vacant .log { key := ⟨"//f", 0⟩ } ⟨"//f", 0⟩ threefold =
      [repeatReport ⟨"//f", 0⟩ "2" (.virtual "y")] ∧
    ¬after.2.Accepts vacant ⟨⟨"//f", 0⟩, "1"⟩ (.record ⟨⟨"//f", 0⟩, "1"⟩) := by
  intro now after
  obtain ⟨-, hnext, honce⟩ := history_of_uses vacant {}
    [.record ⟨⟨"//f", 0⟩, "1"⟩, .reset, .record ⟨⟨"//f", 0⟩, "2"⟩]
  have hfails : after.1 ≠ .ok () := fun hok =>
    (hnext.check _ _ _ _).1 hok "2" (by decide +kernel) (by decide +kernel)
  obtain ⟨digest, input, hlost, hold, -, -, hadded, hreports⟩ := hnext.repeated _ _ _ _ hfails
  obtain rfl : "2" = digest := by
    obtain h | h := mem_history_record.1 hold
    · exact (LossRecord.mk.inj h).2
    · exact absurd h Std.ExtTreeSet.not_mem_empty
  obtain rfl : .virtual "y" = input := Option.some.inj (.trans (by decide +kernel) hlost)
  refine ⟨hfails, (hadded _).2 (Or.inr ⟨rfl, by decide +kernel, by decide⟩), fun h => ?_, hreports, ?_⟩
  · obtain h | ⟨-, -, h⟩ := (hadded _).1 h
    · exact absurd h (by decide +kernel)
    · exact absurd h (by decide)
  · refine ((honce ⟨⟨"//f", 0⟩, "1"⟩ (.check .log { key := ⟨"//f", 0⟩ } ⟨"//f", 0⟩ threefold)).2.2
      [] _ ?_ List.not_mem_nil).2
    decide +kernel

end Build

end Rewinding
