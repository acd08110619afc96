import Mathlib.Data.Fintype.EquivFin
import Mathlib.Data.Fintype.Lattice
import Mathlib.Data.String.Basic
import Rewinding.Proofs.Planning
import Rewinding.Proofs.Reports

/-!
# Losses recorded side by side

Several failures of one action may be reported at once, and each call records its own losses, one
digest after another, until it meets one that is recorded already. The calls take turns as they like,
so each may stop another one. Yet they cannot all stop each other (`exists_ok_of_recording`): a call
goes through its digests in ascending order, so what stops it lies before what stops the call that was
quicker, and some call is stopped by the greatest digest of all.

* `Stage` is how far a call has come, and `Stage.next` its next turn; `advance_procedure` says that the
  calls themselves do just that.
* `Contest` is the invariant of a crew of calls: every digest in the history was recorded by one call,
  and a call that was stopped was stopped by a digest of another one.
-/

namespace Rewinding

open Procedure Planning

variable {known : List Action} {α σ : Type}

/-! ### What the members of a crew do -/

namespace Crew

theorem getElem?_members_turn (world : World known σ) {c : Crew known α σ} {i : Nat}
    {member : Procedure known α} (h : c.members[i]? = some member) (j : Nat) :
    (c.turn world i).members[j]? =
      if i = j then some (member.advance world c.state).1 else c.members[j]? := by
  have hi : i < c.members.length := (List.getElem?_eq_some_iff.1 h).1
  unfold turn
  rw [h]
  simp only
  rw [List.getElem?_set]
  by_cases he : i = j
  · subst he
    simp [hi]
  · simp [he]

theorem state_turn (world : World known σ) {c : Crew known α σ} {i : Nat}
    {member : Procedure known α} (h : c.members[i]? = some member) :
    (c.turn world i).state = (member.advance world c.state).2 := by
  unfold turn
  rw [h]

theorem turn_of_length_le (world : World known σ) {c : Crew known α σ} {i : Nat}
    (h : c.members.length ≤ i) : c.turn world i = c := by
  unfold turn
  rw [List.getElem?_eq_none h]

/-- A crew whose members have all ended is made of what they have ended with. -/
theorem members_of_results? {c : Crew known α σ} {results : List α} (h : c.results? = some results) :
    c.members = results.map .done := by
  unfold results? at h
  generalize c.members = members at h
  induction members generalizing results with
  | nil =>
    cases h
    rfl
  | cons member members ih =>
    rw [List.mapM_cons] at h
    obtain ⟨value, hv, h⟩ := Option.bind_eq_some_iff.1 h
    obtain ⟨rest, hrest, h⟩ := Option.bind_eq_some_iff.1 h
    cases Option.some.inj h
    cases member with
    | done _ =>
      cases hv
      rw [List.map_cons, ← ih hrest]
    | ask step next => cases hv

/-- When all members have ended, each place holds what its member ended with. -/
theorem getElem?_of_results? {c : Crew known α σ} {results : List α} (h : c.results? = some results)
    {i : Nat} {member : Procedure known α} (hi : c.members[i]? = some member) :
    ∃ value, member.result? = some value ∧ results[i]? = some value := by
  rw [members_of_results? h, List.getElem?_map] at hi
  obtain ⟨value, hv, rfl⟩ := Option.map_eq_some_iff.1 hi
  exact ⟨value, rfl, hv⟩

end Crew

/-! ### One call -/

/-- The entries of a loss come in ascending order of their digests. -/
theorem Loss.lt_of_toList_eq {loss : Loss} {before after : List (String × Input)} {digest d : String}
    {input : Input} (h : loss.lost.toList = before ++ (digest, input) :: after)
    (hd : d ∈ before.map Prod.fst) : d < digest := by
  have hordered := Std.ExtTreeMap.ordered_keys_toList (t := loss.lost)
  rw [h, List.pairwise_append] at hordered
  obtain ⟨entry, he, rfl⟩ := List.mem_map.1 hd
  exact compare_lt_iff_lt.1 (hordered.2.2 entry he _ List.mem_cons_self)

/-- How far a call has come that records losses of an action. -/
inductive Stage where
  /-- The losses `won` have been recorded, and `todo` are still to be. -/
  | recording (won todo : List (String × Input))
  /-- The losses `won` have been recorded; the next one had been before. That is to be reported, or
  `reported`. -/
  | stopped (won : List (String × Input)) (digest : String) (input : Input) (reported : Bool)

namespace Stage

/-- The digests that the call has recorded. -/
def digests : Stage → List String
  | recording won _ => won.map Prod.fst
  | stopped won _ _ _ => won.map Prod.fst

/-- Whether the stage is one of a call that goes through `entries`. -/
def Of (entries : List (String × Input)) : Stage → Prop
  | recording won todo => entries = won ++ todo
  | stopped won digest input _ => ∃ rest, entries = won ++ (digest, input) :: rest

variable (reporter : Reporter) (key : ActionKey)

/-- What a call still does. -/
def procedure (failed : Action) (loss : Loss) : Stage → Procedure known (Except Stop Unit)
  | recording _ todo => (recordAll failed key loss todo).run
  | stopped _ digest input false =>
    (Attempt.report (repeatReport key digest input) >>= fun _ =>
      (Attempt.fail (failureOf failed key .repeatedLoss loss) : Attempt known Unit)).run
  | stopped _ digest input true =>
    .done (.error (reporter.stop (repeatReport key digest input)
      (failureOf failed key .repeatedLoss loss)))

/-- The next turn of a call, on the build `b`. -/
def next (b : Build) : Stage → Stage × Build
  | recording won [] => (recording won [], b)
  | recording won ((digest, input) :: todo) =>
    if ⟨key, digest⟩ ∈ b.history then (stopped won digest input false, b)
    else (recording (won ++ [(digest, input)]) todo, b.record ⟨key, digest⟩)
  | stopped won digest input false =>
    (stopped won digest input true, b.take reporter (repeatReport key digest input))
  | stopped won digest input true => (stopped won digest input true, b)

/-- What the call has reported. -/
def reports : Stage → List String
  | stopped _ digest input true => [repeatReport key digest input]
  | _ => []

variable {reporter key} {g : Graph}

theorem next_of_mem {b : Build} {won todo : List (String × Input)} {digest : String} {input : Input}
    (h : ⟨key, digest⟩ ∈ b.history) :
    (recording won ((digest, input) :: todo)).next reporter key b =
      (stopped won digest input false, b) := if_pos h

theorem next_of_notMem {b : Build} {won todo : List (String × Input)} {digest : String} {input : Input}
    (h : ⟨key, digest⟩ ∉ b.history) :
    (recording won ((digest, input) :: todo)).next reporter key b =
      (recording (won ++ [(digest, input)]) todo, b.record ⟨key, digest⟩) := if_neg h

/-- Whether the next loss is new decides how a call goes on. -/
theorem procedure_recording_cons (failed : Action) (loss : Loss) (won todo : List (String × Input))
    (digest : String) (input : Input) :
    (procedure reporter key failed loss (recording won ((digest, input) :: todo)) :
        Procedure known (Except Stop Unit)) =
      .ask (.record key digest) fun isNew =>
        if isNew = true then procedure reporter key failed loss (recording (won ++ [(digest, input)]) todo)
        else procedure reporter key failed loss (stopped won digest input false) := rfl

/-- A report that does not end the call leaves it with the failure. -/
theorem procedure_stopped (failed : Action) (loss : Loss) (won : List (String × Input))
    (digest : String) (input : Input) :
    (procedure reporter key failed loss (stopped won digest input false) :
        Procedure known (Except Stop Unit)) =
      .ask (.report (repeatReport key digest input)) fun crash =>
        .done (.error (crash.elim (.failure (failureOf failed key .repeatedLoss loss)) .crash)) := by
  show Procedure.ask _ _ = _
  congr 1
  funext crash
  cases crash <;> rfl

/-- The turns of a call are those of its stages. -/
theorem advance_procedure (failed : Action) (loss : Loss) (stage : Stage) (b : Build) :
    (stage.procedure reporter key failed loss).advance (Build.world g reporter) b =
      ((stage.next reporter key b).1.procedure reporter key failed loss,
        (stage.next reporter key b).2) := by
  cases stage with
  | recording won todo =>
    cases todo with
    | nil => rfl
    | cons entry todo =>
      obtain ⟨digest, input⟩ := entry
      rw [procedure_recording_cons]
      show ((if decide (⟨key, digest⟩ ∉ b.history) = true then _ else _), b.record ⟨key, digest⟩) = _
      by_cases hm : ⟨key, digest⟩ ∈ b.history
      · rw [next_of_mem hm, Build.record_of_mem hm, if_neg (by simpa using hm)]
      · rw [next_of_notMem hm, if_pos (by simpa using hm)]
  | stopped won digest input reported =>
    cases reported with
    | true => rfl
    | false =>
      rw [procedure_stopped]
      rfl

theorem history_next_stopped (won : List (String × Input)) (digest : String) (input : Input)
    (reported : Bool) (b : Build) :
    ((stopped won digest input reported).next reporter key b).2.history = b.history := by
  cases reported with
  | true => rfl
  | false =>
    show (b.take reporter _).history = _
    unfold Build.take
    split <;> rfl

/-- A call reports what has stopped it, when that is its turn. -/
theorem reports_next (failed : Action) (loss : Loss) (stage : Stage) (b : Build) :
    (stage.next reporter key b).1.reports key = stage.reports key ++
      (stage.procedure reporter key failed loss : Procedure g.roster _).report?.toList := by
  cases stage with
  | recording won todo =>
    cases todo with
    | nil => rfl
    | cons entry todo =>
      obtain ⟨digest, input⟩ := entry
      rw [procedure_recording_cons]
      by_cases hm : ⟨key, digest⟩ ∈ b.history
      · rw [next_of_mem hm]
        rfl
      · rw [next_of_notMem hm]
        rfl
  | stopped won digest input reported =>
    cases reported with
    | true => rfl
    | false =>
      rw [procedure_stopped]
      rfl

end Stage

/-! ### The calls together -/

/-- Calls that record losses of `key` side by side, each with the failed action and its loss. -/
def Crew.recording (g : Graph) (key : ActionKey) (calls : List (Action × Loss)) (b : Build) :
    Crew g.roster (Except Stop Unit) Build where
  members := calls.map fun (failed, loss) => (checkNotRepeated failed key loss).run
  state := b

/-- What holds of a crew of calls that started on the build `b`, where each call is at a stage. -/
structure Contest {g : Graph} (reporter : Reporter) (key : ActionKey) (calls : List (Action × Loss))
    (b : Build) (c : Crew g.roster (Except Stop Unit) Build) (stages : Nat → Stage) : Prop where
  size : c.members.length = calls.length
  member {i : Nat} {failed : Action} {loss : Loss} : calls[i]? = some (failed, loss) →
    c.members[i]? = some ((stages i).procedure reporter key failed loss)
  entries {i : Nat} {failed : Action} {loss : Loss} : calls[i]? = some (failed, loss) →
    (stages i).Of loss.lost.toList
  /-- What is in the history was there before, or a call has recorded it. -/
  recorded {digest : String} : ⟨key, digest⟩ ∈ c.state.history →
    ⟨key, digest⟩ ∈ b.history ∨ ∃ i < calls.length, digest ∈ (stages i).digests
  kept {i : Nat} {digest : String} : i < calls.length → digest ∈ (stages i).digests →
    ⟨key, digest⟩ ∈ c.state.history
  /-- No digest is recorded by two calls. -/
  apart {i j : Nat} {digest : String} : i < calls.length → j < calls.length →
    digest ∈ (stages i).digests → digest ∈ (stages j).digests → i = j
  /-- What has stopped a call was recorded by another one. -/
  stopped {i : Nat} {won : List (String × Input)} {digest : String} {input : Input}
    {reported : Bool} : i < calls.length → stages i = .stopped won digest input reported →
    ∃ j < calls.length, j ≠ i ∧ digest ∈ (stages j).digests

namespace Contest

variable {g : Graph} {reporter : Reporter} {key : ActionKey} {calls : List (Action × Loss)} {b : Build}
  {c : Crew g.roster (Except Stop Unit) Build} {stages : Nat → Stage}

/-- At the start nothing has been recorded. -/
theorem start (g : Graph) (reporter : Reporter) (key : ActionKey) (calls : List (Action × Loss))
    (b : Build) : Contest reporter key calls b (.recording g key calls b)
      (fun i => .recording [] ((calls[i]?.map fun call => call.2.lost.toList).getD [])) where
  size := List.length_map ..
  member {i failed loss} hi := by
    show (calls.map _)[i]? = _
    rw [List.getElem?_map, hi]
    rfl
  entries {i failed loss} hi := by
    rw [hi]
    rfl
  recorded := Or.inl
  kept _ hd := absurd hd List.not_mem_nil
  apart _ _ hd := absurd hd List.not_mem_nil
  stopped _ hs := by cases hs

/-- The call at place `i` comes to another stage and records what is `fresh`. -/
theorem update (h : Contest reporter key calls b c stages) {i : Nat} {failed : Action} {loss : Loss}
    (hi : calls[i]? = some (failed, loss)) {stage : Stage} (fresh : List String)
    {c' : Crew g.roster (Except Stop Unit) Build} (hsize : c'.members.length = c.members.length)
    (hmembers : ∀ j, c'.members[j]? =
      if i = j then some (stage.procedure reporter key failed loss) else c.members[j]?)
    (hhistory : ∀ digest, ⟨key, digest⟩ ∈ c'.state.history ↔
      digest ∈ fresh ∨ ⟨key, digest⟩ ∈ c.state.history)
    (hfresh : ∀ digest ∈ fresh, ⟨key, digest⟩ ∉ c.state.history) (hof : stage.Of loss.lost.toList)
    (hdigests : stage.digests = (stages i).digests ++ fresh)
    (hstopped : ∀ won digest input reported, stage = .stopped won digest input reported →
      ∃ j < calls.length, j ≠ i ∧ digest ∈ (stages j).digests) :
    Contest reporter key calls b c' (Function.update stages i stage) := by
  have hmem : ∀ j digest, digest ∈ (Function.update stages i stage j).digests ↔
      digest ∈ (stages j).digests ∨ j = i ∧ digest ∈ fresh := by
    intro j digest
    by_cases he : j = i
    · subst he
      rw [Function.update_self, hdigests, List.mem_append]
      simp
    · rw [Function.update_of_ne he]
      simp [he]
  have hlen : i < calls.length := (List.getElem?_eq_some_iff.1 hi).1
  constructor
  · rw [hsize, h.size]
  · intro j failed' loss' hj
    rw [hmembers]
    by_cases he : i = j
    · subst he
      rw [hi] at hj
      cases hj
      rw [if_pos rfl, Function.update_self]
    · rw [if_neg he, Function.update_of_ne fun h => he h.symm]
      exact h.member hj
  · intro j failed' loss' hj
    by_cases he : j = i
    · subst he
      rw [hi] at hj
      cases hj
      rw [Function.update_self]
      exact hof
    · rw [Function.update_of_ne he]
      exact h.entries hj
  · intro digest hd
    obtain hd | hd := (hhistory digest).1 hd
    · exact Or.inr ⟨i, hlen, (hmem i digest).2 (Or.inr ⟨rfl, hd⟩)⟩
    · obtain hd | ⟨j, hj, hd⟩ := h.recorded hd
      · exact Or.inl hd
      · exact Or.inr ⟨j, hj, (hmem j digest).2 (Or.inl hd)⟩
  · intro j digest hj hd
    obtain hd | ⟨-, hd⟩ := (hmem j digest).1 hd
    · exact (hhistory digest).2 (Or.inr (h.kept hj hd))
    · exact (hhistory digest).2 (Or.inl hd)
  · intro j k digest hj hk hd hd'
    -- what is fresh is in no history, and so at no other call
    obtain hold | ⟨rfl, hf⟩ := (hmem j digest).1 hd
    · obtain hold' | ⟨rfl, hf⟩ := (hmem k digest).1 hd'
      · exact h.apart hj hk hold hold'
      · exact absurd (h.kept hj hold) (hfresh _ hf)
    · obtain hold | ⟨rfl, -⟩ := (hmem k digest).1 hd'
      · exact absurd (h.kept hk hold) (hfresh _ hf)
      · rfl
  · intro j won digest input reported hj hs
    have hother : ∃ k < calls.length, k ≠ j ∧ digest ∈ (stages k).digests := by
      by_cases he : j = i
      · subst he
        rw [Function.update_self] at hs
        exact hstopped _ _ _ _ hs
      · rw [Function.update_of_ne he] at hs
        exact h.stopped hj hs
    obtain ⟨k, hk, hne, hd⟩ := hother
    exact ⟨k, hk, hne, (hmem k digest).2 (Or.inl hd)⟩

/-- **A turn keeps the invariant**, where no call lost what the history held at the start. -/
theorem turn (h : Contest reporter key calls b c stages)
    (hnew : ∀ call ∈ calls, ∀ digest ∈ call.2.digests, ⟨key, digest⟩ ∉ b.history) {i : Nat}
    {failed : Action} {loss : Loss} (hi : calls[i]? = some (failed, loss)) :
    Contest reporter key calls b (c.turn (Build.world g reporter) i)
      (Function.update stages i ((stages i).next reporter key c.state).1) := by
  have hlen : i < calls.length := (List.getElem?_eq_some_iff.1 hi).1
  have hmember := h.member hi
  have hof := h.entries hi
  have hsize := c.length_members_turn (Build.world g reporter) i
  have hmembers := Crew.getElem?_members_turn (Build.world g reporter) hmember
  have hstate := Crew.state_turn (Build.world g reporter) hmember
  rw [Stage.advance_procedure] at hstate
  simp only [Stage.advance_procedure] at hmembers
  generalize hs : stages i = stage at *
  cases stage with
  | recording won todo =>
    cases todo with
    | nil =>
      refine h.update hi [] hsize hmembers (fun d => ?_) (by simp) hof ?_ nofun
      · simp [hstate, Stage.next]
      · simp [hs, Stage.next]
    | cons entry todo =>
      obtain ⟨digest, input⟩ := entry
      have hentries : loss.lost.toList = won ++ (digest, input) :: todo := hof
      by_cases hm : ⟨key, digest⟩ ∈ c.state.history
      -- another call has recorded the digest, as this one has only recorded lower ones
      case pos =>
        rw [Stage.next_of_mem hm] at hmembers hstate ⊢
        refine h.update hi [] hsize hmembers (fun d => ?_) (by simp) ⟨todo, hentries⟩ ?_ ?_
        · simp [hstate]
        · simp [hs, Stage.digests]
        · intro won' digest' input' reported he
          cases he
          obtain hd | ⟨j, hj, hd⟩ := h.recorded hm
          · have hlost := Loss.mem_digests_of_toList_eq hentries
            exact absurd hd (hnew _ (List.mem_of_getElem? hi) _ hlost)
          · refine ⟨j, hj, ?_, hd⟩
            rintro rfl
            rw [hs] at hd
            exact absurd (Loss.lt_of_toList_eq hentries hd) (lt_irrefl _)
      case neg =>
        rw [Stage.next_of_notMem hm] at hmembers hstate ⊢
        refine h.update hi [digest] hsize hmembers (fun d => ?_) (by simpa using hm) ?_ ?_ nofun
        · rw [hstate, Build.mem_history_record, List.mem_singleton, LossRecord.mk.injEq]
          simp [eq_comm]
        · show loss.lost.toList = won ++ [(digest, input)] ++ todo
          rw [hentries, List.append_assoc]
          rfl
        · simp [hs, Stage.digests]
  | stopped won digest input reported =>
    have hdigests : ((Stage.stopped won digest input reported).next reporter key c.state).1.digests =
        won.map Prod.fst := by
      cases reported <;> rfl
    have hof' : ((Stage.stopped won digest input reported).next reporter key c.state).1.Of
        loss.lost.toList := by
      cases reported <;> exact hof
    refine h.update hi [] hsize hmembers (fun d => ?_) (by simp) hof' ?_ ?_
    -- to report is not to record
    · rw [hstate, Stage.history_next_stopped]
      simp
    · rw [hdigests, hs, List.append_nil]
      rfl
    · intro won' digest' input' reported' he
      have hd : digest = digest' := by
        cases reported <;> cases he <;> rfl
      subst hd
      exact h.stopped hlen hs

/-- **A whole schedule keeps the invariant**; a turn of nobody changes nothing. Each call reports, over
the schedule, what it has reported at the end and had not at the start. -/
theorem work (h : Contest reporter key calls b c stages)
    (hnew : ∀ call ∈ calls, ∀ digest ∈ call.2.digests, ⟨key, digest⟩ ∉ b.history)
    (schedule : List Nat) :
    ∃ stages', Contest reporter key calls b (c.work (Build.world g reporter) schedule) stages' ∧
      ∀ i < calls.length, (stages' i).reports key =
        (stages i).reports key ++ c.reports (Build.world g reporter) i schedule := by
  induction schedule generalizing c stages with
  | nil => exact ⟨stages, h, fun i _ => (List.append_nil _).symm⟩
  | cons j schedule ih =>
    rw [Crew.work_cons]
    by_cases hj : j < calls.length
    case neg =>
      rw [Crew.turn_of_length_le _ (h.size ▸ Nat.le_of_not_lt hj)]
      obtain ⟨stages', h', hreports⟩ := ih h
      refine ⟨stages', h', fun i hi => ?_⟩
      have hne : j ≠ i := fun he => hj (he ▸ hi)
      rw [hreports i hi, Crew.reports_cons, Crew.turn_of_length_le _ (h.size ▸ Nat.le_of_not_lt hj),
        Crew.reportIn, if_neg hne]
      rfl
    case pos =>
      have hcall : calls[j]? = some (calls[j].1, calls[j].2) := List.getElem?_eq_getElem hj
      obtain ⟨stages', h', hreports⟩ := ih (h.turn hnew hcall)
      refine ⟨stages', h', fun i hi => ?_⟩
      rw [hreports i hi, Crew.reports_cons, ← List.append_assoc]
      congr 1
      unfold Crew.reportIn
      by_cases he : j = i
      · subst he
        rw [if_pos rfl, h.member hcall, Function.update_self]
        exact Stage.reports_next calls[j].1 calls[j].2 (stages j) c.state
      · rw [if_neg he, List.append_nil, Function.update_of_ne fun h => he h.symm]

/-- A call that has ended has recorded its whole loss, or has reported what stopped it. -/
theorem ended (h : Contest reporter key calls b c stages) {results : List (Except Stop Unit)}
    (hr : c.results? = some results) {i : Nat} {failed : Action} {loss : Loss}
    (hi : calls[i]? = some (failed, loss)) :
    stages i = .recording loss.lost.toList [] ∧ results[i]? = some (.ok ()) ∨
    ∃ won digest input, stages i = .stopped won digest input true ∧
      results[i]? = some (.error (reporter.stop (repeatReport key digest input)
        (failureOf failed key .repeatedLoss loss))) := by
  obtain ⟨value, hv, hresult⟩ := Crew.getElem?_of_results? hr (h.member hi)
  have hof := h.entries hi
  rw [hresult]
  generalize stages i = stage at *
  cases stage with
  | recording won todo =>
    cases todo with
    | nil =>
      have hwon : loss.lost.toList = won ++ [] := hof
      rw [List.append_nil] at hwon
      exact Or.inl ⟨by rw [hwon], hv.symm⟩
    | cons entry todo => cases hv
  | stopped won digest input reported =>
    cases reported with
    | true => exact Or.inr ⟨won, digest, input, rfl, hv.symm⟩
    | false =>
      rw [Stage.procedure_stopped] at hv
      cases hv

/-- Some call is not stopped: the greatest digest that stops a call was recorded by another one, which
can only be stopped by a greater one. -/
theorem exists_recording (h : Contest reporter key calls b c stages) (hne : calls ≠ []) :
    ∃ i < calls.length, ∃ won todo, stages i = .recording won todo := by
  by_contra hall
  push Not at hall
  have hstop : ∀ i : Fin calls.length, ∃ won digest input reported,
      stages i = .stopped won digest input reported := by
    intro i
    cases hs : stages i with
    | recording won todo => exact absurd hs (hall i i.2 won todo)
    | stopped won digest input reported => exact ⟨won, digest, input, reported, rfl⟩
  choose won digest input reported hstop using hstop
  have : Nonempty (Fin calls.length) := ⟨⟨0, List.length_pos_iff.2 hne⟩⟩
  obtain ⟨i, hmax⟩ := Finite.exists_max digest
  obtain ⟨j, hj, -, hd⟩ := h.stopped i.2 (hstop i)
  have hof := h.entries (List.getElem?_eq_getElem hj)
  rw [hstop ⟨j, hj⟩] at hd hof
  obtain ⟨rest, hentries⟩ := hof
  exact absurd (Loss.lt_of_toList_eq hentries hd) (not_lt_of_ge (hmax ⟨j, hj⟩))

end Contest

/-! ### The outcome -/

/-- **Calls that record losses of one action cannot all stop each other.** Let none of their digests be
in the history. However the calls take turns, once all have ended: of two calls that share a digest,
one has failed at least; some call has not failed; and a call that failed has sent one report, of the
digest that stopped it, and any other one none. -/
theorem exists_ok_of_recording (g : Graph) (reporter : Reporter) (key : ActionKey)
    (calls : List (Action × Loss)) (b : Build) (schedule : List Nat) (results : List (Except Stop Unit))
    (hnew : ∀ call ∈ calls, ∀ digest ∈ call.2.digests, ⟨key, digest⟩ ∉ b.history)
    (hr : ((Crew.recording g key calls b).work (Build.world g reporter) schedule).results? =
      some results) :
    (∀ (i j : Nat) (failed failed' : Action) (loss loss' : Loss), calls[i]? = some (failed, loss) →
      calls[j]? = some (failed', loss') → i ≠ j → (∃ digest ∈ loss.digests, digest ∈ loss'.digests) →
      ¬(results[i]? = some (.ok ()) ∧ results[j]? = some (.ok ()))) ∧
    (calls ≠ [] → .ok () ∈ results) ∧
    ∀ (i : Nat) (failed : Action) (loss : Loss), calls[i]? = some (failed, loss) →
      results[i]? = some (.ok ()) ∧
        (Crew.recording g key calls b).reports (Build.world g reporter) i schedule = [] ∨
      ∃ digest input, loss.lost[digest]? = some input ∧
        results[i]? = some (.error (reporter.stop (repeatReport key digest input)
          (failureOf failed key .repeatedLoss loss))) ∧
        (Crew.recording g key calls b).reports (Build.world g reporter) i schedule =
          [repeatReport key digest input] := by
  obtain ⟨stages, h, hreports⟩ := (Contest.start g reporter key calls b).work hnew schedule
  refine ⟨?_, ?_, ?_⟩
  · rintro i j failed failed' loss loss' hi hj hne ⟨digest, hd, hd'⟩ ⟨hoki, hokj⟩
    have hwon : ∀ {k : Nat} {failed : Action} {loss : Loss}, calls[k]? = some (failed, loss) →
        results[k]? = some (.ok ()) → (stages k).digests = loss.digests := by
      intro k failed loss hk hok
      obtain ⟨hs, -⟩ | ⟨_, _, _, -, herr⟩ := h.ended hr hk
      · rw [hs]
        rfl
      · rw [hok] at herr
        cases herr
    rw [← hwon hi hoki] at hd
    rw [← hwon hj hokj] at hd'
    exact hne (h.apart (List.getElem?_eq_some_iff.1 hi).1 (List.getElem?_eq_some_iff.1 hj).1 hd hd')
  · intro hcalls
    obtain ⟨i, hi, won, todo, hs⟩ := h.exists_recording hcalls
    obtain ⟨-, hok⟩ | ⟨_, _, _, hs', -⟩ := h.ended hr (List.getElem?_eq_getElem hi)
    · exact List.mem_of_getElem? hok
    · rw [hs] at hs'
      cases hs'
  · intro i failed loss hi
    have hsent := hreports i (List.getElem?_eq_some_iff.1 hi).1
    rw [show Stage.reports key (.recording [] _) = [] from rfl, List.nil_append] at hsent
    obtain ⟨hs, hok⟩ | ⟨won, digest, input, hs, herr⟩ := h.ended hr hi
    · refine Or.inl ⟨hok, ?_⟩
      rw [← hsent, hs]
      rfl
    · refine Or.inr ⟨digest, input, ?_, herr, ?_⟩
      · have hof := h.entries hi
        rw [hs] at hof
        obtain ⟨rest, hentries⟩ := hof
        rw [← Std.ExtTreeMap.mem_toList_iff_getElem?_eq_some, hentries]
        simp
      · rw [← hsent, hs]
        rfl

/-- Losses of `//f#0` that overlap: each of the inputs is lost by two calls. -/
def overlapping : List (Action × Loss) :=
  [[("1", Input.virtual "x"), ("2", .virtual "y")], [("2", .virtual "y"), ("3", .virtual "z")],
    [("1", .virtual "x"), ("3", .virtual "z")]].map
      fun entries => ({ key := ⟨"//f", 0⟩ }, .ofEntries "" entries ∅)

/-- A graph without actions. -/
def vacant : Graph where
  actions := ∅
  artifacts := ∅
  producers := ∅
  treeOwners := ∅
  runfilesOwners := ∅
  extraNodes := ∅

/-- The first call is stopped by the second one, after it has stopped the third one. -/
theorem exists_ok_of_recording_overlapping : ∃ results,
    (∀ call ∈ overlapping, ∀ digest ∈ call.2.digests, ⟨⟨"//f", 0⟩, digest⟩ ∉ ({} : Build).history) ∧
    ((Crew.recording vacant ⟨"//f", 0⟩ overlapping {}).work (Build.world vacant .log)
      [0, 1, 0, 2, 0, 1, 2]).results? = some results ∧
    .ok () ∈ results := by
  obtain ⟨results, hr⟩ := Option.isSome_iff_exists.1 (show ((Crew.recording vacant ⟨"//f", 0⟩
    overlapping {}).work (Build.world vacant .log) [0, 1, 0, 2, 0, 1, 2]).results?.isSome from by
      decide +kernel)
  have hnew : ∀ call ∈ overlapping, ∀ digest ∈ call.2.digests,
      ⟨⟨"//f", 0⟩, digest⟩ ∉ ({} : Build).history := fun _ _ _ _ => Std.ExtTreeSet.not_mem_empty
  exact ⟨results, hnew, hr, (exists_ok_of_recording vacant .log _ _ _ _ results hnew hr).2.1 (by decide)⟩

end Rewinding
