import Rewinding.Build
import Rewinding.Planning
import Rewinding.Proofs.Attribution
import Rewinding.Proofs.Running

/-!
# What is checked before a walk

Planning begins with three checks: that no input was lost before, that no lost input shows a defect, and
that no source accounts for one. The checks ask the graph nothing. What they come to depends on the build
alone, and `Checked` lists it.

Builds stand in larger states, and who answers the queries of a walk differs. All that the checks need is
that what is to be remembered and reported goes into a build (`World.Files`). `exec_planFor` says that
in such a world planning makes its checks, and goes on with a walk only where they let it pass.
-/

namespace Rewinding

open Procedure

variable {known : List Action} {σ δ : Type}

/-! ### Recording losses -/

namespace Build

/-- Remember that `key` lost inputs with some digests. -/
def recordEach (b : Build) (key : ActionKey) (digests : List String) : Build :=
  digests.foldl (fun b digest => b.record ⟨key, digest⟩) b

theorem mem_history_record {b : Build} {loss other : LossRecord} :
    other ∈ (b.record loss).history ↔ loss = other ∨ other ∈ b.history := by
  simp [record]

theorem record_of_mem {b : Build} {loss : LossRecord} (h : loss ∈ b.history) : b.record loss = b := by
  have hs : b.history.insert loss = b.history := by
    apply Std.ExtTreeSet.ext_mem
    intro other
    simp only [Std.ExtTreeSet.mem_insert, Std.LawfulEqCmp.compare_eq_iff_eq]
    constructor
    · rintro (rfl | ho)
      · exact h
      · exact ho
    · exact Or.inr
  unfold record
  rw [hs]

theorem mem_history_recordEach {b : Build} {key : ActionKey} {digests : List String}
    {loss : LossRecord} : loss ∈ (b.recordEach key digests).history ↔
      loss ∈ b.history ∨ loss.key = key ∧ loss.digest ∈ digests := by
  unfold recordEach
  induction digests generalizing b with
  | nil => simp
  | cons d ds ih =>
    have hd : ⟨key, d⟩ = loss ↔ loss.key = key ∧ loss.digest = d := by
      rw [LossRecord.ext_iff, eq_comm, @eq_comm _ d]
    rw [List.foldl_cons, ih, mem_history_record, List.mem_cons, hd]
    constructor
    · rintro ((⟨hkey, hd⟩ | h) | ⟨hkey, hd⟩)
      · exact Or.inr ⟨hkey, Or.inl hd⟩
      · exact Or.inl h
      · exact Or.inr ⟨hkey, Or.inr hd⟩
    · rintro (h | ⟨hkey, hd | hd⟩)
      · exact Or.inl (Or.inr h)
      · exact Or.inl (Or.inl ⟨hkey, hd⟩)
      · exact Or.inr ⟨hkey, hd⟩

theorem reports_recordEach (b : Build) (key : ActionKey) (digests : List String) :
    (b.recordEach key digests).reports = b.reports := by
  unfold recordEach
  induction digests generalizing b with
  | nil => rfl
  | cons d ds ih => exact ih (b.record ⟨key, d⟩)

end Build

theorem Loss.mem_digests_of_toList_eq {loss : Loss} {before after : List (String × Input)}
    {digest : String} {input : Input}
    (h : loss.lost.toList = before ++ (digest, input) :: after) : digest ∈ loss.digests := by
  unfold digests
  rw [h]
  simp

/-- A digest comes once in a loss. -/
theorem nodup_digests (loss : Loss) : (loss.lost.toList.map Prod.fst).Nodup := by
  rw [Std.ExtTreeMap.map_fst_toList_eq_keys]
  exact Std.ExtTreeMap.nodup_keys

/-- How a computation ends that reported a defect and then fails, unless the report ends it. -/
def Reporter.stop (reporter : Reporter) (message : String) (failure : Failure) : Stop :=
  (reporter.crash? message).elim (.failure failure) .crash

/-- What is to be remembered and reported goes into the build of a state, and the `rest` of the state
stays as it is. -/
structure World.Files (world : World known σ) (reporter : Reporter) (build : σ → Build)
    (rest : σ → δ) : Prop where
  record (key : ActionKey) (digest : String) (s : σ) :
    (world.answer (.record key digest) s).1 = decide (⟨key, digest⟩ ∉ (build s).history) ∧
      build (world.answer (.record key digest) s).2 = (build s).record ⟨key, digest⟩ ∧
      rest (world.answer (.record key digest) s).2 = rest s
  report (message : String) (s : σ) :
    (world.answer (.report message) s).1 = reporter.crash? message ∧
      build (world.answer (.report message) s).2 = (build s).take reporter message ∧
      rest (world.answer (.report message) s).2 = rest s

namespace Planning

/-! ### What the checks come to -/

/-- The artifacts that account for lost inputs. -/
def owners (r : Responsible) : List Artifact := r.toList.map Prod.fst

theorem mem_owners {r : Responsible} {a : Artifact} : a ∈ owners r ↔ a ∈ r := by
  unfold owners
  rw [Std.ExtTreeMap.map_fst_toList_eq_keys, Std.ExtTreeMap.mem_keys]

/-- What the checks come to on the build `b`, with the build that they leave: a reason to end planning,
or the artifacts from which a walk starts. -/
inductive Checked (reporter : Reporter) (failed : Action) (key : ActionKey)
    (directDeps : Std.ExtTreeSet Node) (loss : Loss) (runfiles : OwnerLookup) (b : Build) :
    Except Stop (List Artifact) → Build → Prop where
  /-- An input was lost before. The ones in front of it have been recorded. -/
  | repeated {before : List (String × Input)} {digest : String} {input : Input}
      {after : List (String × Input)} : loss.lost.toList = before ++ (digest, input) :: after →
      (∀ e ∈ before, ⟨key, e.1⟩ ∉ b.history) → ⟨key, digest⟩ ∈ b.history →
      Checked reporter failed key directDeps loss runfiles b
        (.error (reporter.stop (repeatReport key digest input)
          (failureOf failed key .repeatedLoss loss)))
        ((b.recordEach key (before.map Prod.fst)).take reporter (repeatReport key digest input))
  /-- A lost input shows a defect of the graph engine. -/
  | defect {failure : Failure} : (∀ digest ∈ loss.digests, ⟨key, digest⟩ ∉ b.history) →
      Ownership.resolve ⟨loss.owners, runfiles, directDeps⟩ failed.key loss.inputs =
        .error failure →
      Checked reporter failed key directDeps loss runfiles b
        (.error (reporter.stop failure.message failure))
        ((b.recordEach key loss.digests).take reporter failure.message)
  /-- A source accounts for a lost input. -/
  | sourceLost {r : Responsible} : (∀ digest ∈ loss.digests, ⟨key, digest⟩ ∉ b.history) →
      Ownership.resolve ⟨loss.owners, runfiles, directDeps⟩ failed.key loss.inputs = .ok r →
      (owners r).any Artifact.isSource →
      Checked reporter failed key directDeps loss runfiles b
        (.error (.failure (failureOf failed key .sourceLost loss))) (b.recordEach key loss.digests)
  | passed {r : Responsible} : (∀ digest ∈ loss.digests, ⟨key, digest⟩ ∉ b.history) →
      Ownership.resolve ⟨loss.owners, runfiles, directDeps⟩ failed.key loss.inputs = .ok r →
      (owners r).any Artifact.isSource = false →
      Checked reporter failed key directDeps loss runfiles b
        (.ok (owners r)) (b.recordEach key loss.digests)

/-- Walk from some artifacts, and return the plan that comes of it. -/
def walkFrom (key : ActionKey) (artifacts : List Artifact) : Attempt known Plan := do
  let builder ← (Walk.rewindAll (Builder.start key) artifacts).adapt Prod.fst
  return builder.plan

/-! ### Making the checks -/

section Files

variable {world : World known σ} {reporter : Reporter} {build : σ → Build} {rest : σ → δ}
  (hw : world.Files reporter build rest)

include hw

theorem exec_report_fail {α : Type} (message : String) (failure : Failure) (s : σ) :
    ∃ t, exec world (Attempt.report message >>= fun _ => (Attempt.fail failure : Attempt known α)) s =
        (.error (reporter.stop message failure), t) ∧
      build t = (build s).take reporter message ∧ rest t = rest s := by
  obtain ⟨hanswer, hbuild, hrest⟩ := hw.report message s
  refine ⟨_, ?_, hbuild, hrest⟩
  rw [exec_bind, exec_report, hanswer]
  unfold Reporter.stop
  cases reporter.crash? message <;> rfl

/-- Recording goes on up to the first digest that is remembered already. -/
theorem exec_recordAll (failed : Action) (key : ActionKey) (loss : Loss)
    {entries : List (String × Input)} (hd : (entries.map Prod.fst).Nodup) (s : σ) :
    ((∀ e ∈ entries, ⟨key, e.1⟩ ∉ (build s).history) ∧
      ∃ t, exec world (recordAll failed key loss entries) s = (.ok (), t) ∧
        build t = (build s).recordEach key (entries.map Prod.fst) ∧ rest t = rest s) ∨
    ∃ before digest input after, entries = before ++ (digest, input) :: after ∧
      (∀ e ∈ before, ⟨key, e.1⟩ ∉ (build s).history) ∧ ⟨key, digest⟩ ∈ (build s).history ∧
      ∃ t, exec world (recordAll failed key loss entries) s =
          (.error (reporter.stop (repeatReport key digest input)
            (failureOf failed key .repeatedLoss loss)), t) ∧
        build t = ((build s).recordEach key (before.map Prod.fst)).take reporter
          (repeatReport key digest input) ∧ rest t = rest s := by
  induction entries generalizing s with
  | nil => exact Or.inl ⟨by simp, s, rfl, rfl, rfl⟩
  | cons e entries ih =>
    obtain ⟨digest, input⟩ := e
    rw [List.map_cons, List.nodup_cons] at hd
    obtain ⟨hfresh, hd⟩ := hd
    unfold recordAll
    obtain ⟨hanswer, hbuild, hrest⟩ := hw.record key digest s
    rw [exec_bind, exec_step, hanswer]
    generalize (world.answer (.record key digest) s).2 = u at hbuild hrest
    by_cases hm : ⟨key, digest⟩ ∈ (build s).history
    -- recording it once more changes nothing
    case pos =>
      refine Or.inr ⟨[], digest, input, entries, rfl, by simp, hm, ?_⟩
      rw [Build.record_of_mem hm] at hbuild
      simp only [hm, not_true_eq_false, decide_false]
      obtain ⟨t, hexec, ht, htrest⟩ := exec_report_fail hw (α := Unit) (repeatReport key digest input)
        (failureOf failed key .repeatedLoss loss) u
      exact ⟨t, hexec, ht.trans (congrArg (Build.take · reporter _) hbuild), htrest.trans hrest⟩
    case neg =>
      simp only [hm, not_false_eq_true, decide_true, if_true]
      -- a digest comes once, so what is recorded here is no repetition further on
      have hold : ∀ e ∈ entries, ⟨key, e.1⟩ ∈ (build u).history ↔ ⟨key, e.1⟩ ∈ (build s).history := by
        intro e he
        rw [hbuild, Build.mem_history_record]
        constructor
        · rintro (h | h)
          · cases h
            exact absurd (List.mem_map_of_mem he) hfresh
          · exact h
        · exact Or.inr
      rcases ih hd u with ⟨hnew, t, hexec, ht, htrest⟩ |
        ⟨before, d, i, after, rfl, hnew, hd', t, hexec, ht, htrest⟩
      · refine Or.inl ⟨?_, t, hexec, ?_, htrest.trans hrest⟩
        · intro e he
          rcases List.mem_cons.1 he with rfl | he
          · exact hm
          · exact fun h => hnew e he ((hold e he).2 h)
        · rw [ht, hbuild]
          rfl
      · refine Or.inr ⟨(digest, input) :: before, d, i, after, rfl, ?_, ?_, t, hexec, ?_,
          htrest.trans hrest⟩
        · intro e he
          rcases List.mem_cons.1 he with rfl | he
          · exact hm
          · exact fun h => hnew e he ((hold e (List.mem_append_left _ he)).2 h)
        · exact (hold (d, i) (by simp)).1 hd'
        · rw [ht, hbuild]
          rfl

/-- **Planning makes its checks first.** Where they do not let it pass it ends at once, and otherwise it
goes on with a walk. -/
theorem exec_planFor (failed : Action) (key : ActionKey) (directDeps : Std.ExtTreeSet Node)
    (loss : Loss) (runfiles : OwnerLookup) (s : σ) :
    ∃ checked t, Checked reporter failed key directDeps loss runfiles (build s) checked (build t) ∧
      rest t = rest s ∧
      exec world (planFor failed key directDeps loss runfiles) s =
        match checked with
        | .error stop => (.error stop, t)
        | .ok artifacts => exec world (walkFrom key artifacts) t := by
  unfold planFor checkNotRepeated
  rcases exec_recordAll hw failed key loss (nodup_digests loss) s with
    ⟨hnew, t, hexec, hbuild, hrest⟩ |
    ⟨before, digest, input, after, he, hnew, hd, t, hexec, hbuild, hrest⟩
  case inr =>
    refine ⟨.error _, t, ?_, hrest, exec_bind_error _ _ hexec _⟩
    rw [hbuild]
    exact .repeated he hnew hd
  -- no input was lost before, and all of them have been recorded
  have hfresh : ∀ digest ∈ loss.digests, (⟨key, digest⟩ : LossRecord) ∉ (build s).history := by
    intro digest hd
    rcases List.mem_map.1 hd with ⟨e, he, rfl⟩
    exact hnew e he
  have hbuild : build t = (build s).recordEach key loss.digests := hbuild
  rw [exec_bind_ok _ _ hexec]
  unfold responsible
  cases hr : Ownership.resolve ⟨loss.owners, runfiles, directDeps⟩ failed.key loss.inputs with
  | error failure =>
    have hdefect := Ownership.isDefect_of_resolve hr
    simp only [hdefect, if_true]
    obtain ⟨u, hexec, hu, hurest⟩ :=
      exec_report_fail hw (α := Responsible) failure.message failure t
    refine ⟨.error _, u, ?_, hurest.trans hrest, exec_bind_error _ _ hexec _⟩
    rw [hu, hbuild]
    exact .defect hfresh hr
  | ok r =>
    have howners : r.toList.map Prod.fst = owners r := rfl
    simp only [exec_bind_ok _ _ (exec_pure ..), howners]
    by_cases hs : (owners r).any Artifact.isSource
    case pos =>
      refine ⟨.error _, t, ?_, hrest, by rw [if_pos hs, exec_bind_error _ _ (exec_fail ..)]⟩
      rw [hbuild]
      exact .sourceLost hfresh hr hs
    case neg =>
      refine ⟨.ok (owners r), t, ?_, hrest, ?_⟩
      · rw [hbuild]
        exact .passed hfresh hr (by simpa using hs)
      · rw [if_neg hs]
        rfl

end Files

end Planning

end Rewinding
