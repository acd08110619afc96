import Rewinding.Proofs.Attribution
import Rewinding.Proofs.Fairness
import Rewinding.Proofs.Frame
import Rewinding.Proofs.Planning
import Rewinding.Proofs.Worklist

/-!
# Each result arrives at the place of its failure

Several losses are handled side by side, and the handlings end in any order. What they end with is put into
the order of the losses again, so the result at a place is that of the loss at this place
(`Session.gather_of_crew`), for as many losses as there are, and if several are of one action. All results
are there, unless the report of a defect has ended a handling; then its text is all there is.

A result also shows whose it is. A plan begins with the node of the failed action, and a failure of an
action names it along with the loss (`Labels`).
-/

namespace Rewinding

open Procedure Planning

variable {known : List Action} {α β : Type}

/-! ### Results in order -/

/-- Fill places with the values that arrive. -/
def fill (places : List (Option β)) (entries : List (Nat × β)) : List (Option β) :=
  entries.foldl (fun places (i, value) => places.set i (some value)) places

theorem fill_cons (places : List (Option β)) (entry : Nat × β) (entries : List (Nat × β)) :
    fill places (entry :: entries) = fill (places.set entry.1 (some entry.2)) entries := rfl

theorem arrange_eq (count : Nat) (entries : List (Nat × β)) :
    arrange count entries = (fill (List.replicate count none) entries).filterMap id := rfl

theorem length_fill (places : List (Option β)) (entries : List (Nat × β)) :
    (fill places entries).length = places.length := by
  induction entries generalizing places with
  | nil => rfl
  | cons entry entries ih => rw [fill_cons, ih, List.length_set]

theorem fill_map {γ : Type} (f : β → γ) (places : List (Option β)) (entries : List (Nat × β)) :
    fill (places.map (Option.map f)) (entries.map (Prod.map id f)) =
      (fill places entries).map (Option.map f) := by
  induction entries generalizing places with
  | nil => rfl
  | cons entry entries ih =>
    rw [List.map_cons, fill_cons, fill_cons, ← ih, List.map_set]
    rfl

/-- A place keeps its value when only other places are filled. -/
theorem getElem?_fill_of_notMem {entries : List (Nat × β)} {places : List (Option β)} {i : Nat}
    (h : i ∉ entries.map Prod.fst) : (fill places entries)[i]? = places[i]? := by
  induction entries generalizing places with
  | nil => rfl
  | cons entry entries ih =>
    rw [List.map_cons, List.mem_cons, not_or] at h
    rw [fill_cons, ih h.2]
    exact List.getElem?_set_ne (Ne.symm h.1)

/-- A place that is filled once holds what it was filled with. -/
theorem getElem?_fill {entries : List (Nat × β)} {places : List (Option β)}
    (hnodup : (entries.map Prod.fst).Nodup) {i : Nat} {value : β} (hmem : (i, value) ∈ entries)
    (hi : i < places.length) : (fill places entries)[i]? = some (some value) := by
  induction entries generalizing places with
  | nil => cases hmem
  | cons entry entries ih =>
    rw [List.map_cons, List.nodup_cons] at hnodup
    rw [fill_cons]
    obtain rfl | hmem := List.mem_cons.1 hmem
    · rw [getElem?_fill_of_notMem hnodup.1]
      exact List.getElem?_set_self hi
    · exact ih hnodup.2 hmem (by rwa [List.length_set])

theorem mem_swap_zipIdx {values : List β} {i : Nat} {value : β} :
    (i, value) ∈ values.zipIdx.map Prod.swap ↔ values[i]? = some value := by
  rw [List.mem_map, ← List.mk_mem_zipIdx_iff_getElem?]
  constructor
  · rintro ⟨⟨value, i⟩, hm, he⟩
    cases he
    exact hm
  · intro hm
    exact ⟨_, hm, rfl⟩

/-- Values that come with their places are put in order, however they come. -/
theorem arrange_of_perm {values : List β} {entries : List (Nat × β)}
    (h : entries.Perm (values.zipIdx.map Prod.swap)) : arrange values.length entries = values := by
  have hnodup : (entries.map Prod.fst).Nodup := by
    rw [(h.map Prod.fst).nodup_iff, List.map_map]
    show (values.zipIdx.map Prod.snd).Nodup
    rw [List.zipIdx_map_snd]
    exact List.nodup_range'
  have hfill : fill (List.replicate values.length none) entries = values.map some := by
    refine List.ext_getElem (by rw [length_fill, List.length_replicate, List.length_map]) fun i hi _ => ?_
    rw [length_fill, List.length_replicate] at hi
    have hmem : (i, values[i]) ∈ entries := h.mem_iff.2 (mem_swap_zipIdx.2 (List.getElem?_eq_getElem hi))
    have hlt : i < (List.replicate values.length (none : Option β)).length := by rwa [List.length_replicate]
    have hplace := getElem?_fill hnodup hmem hlt
    rw [List.getElem_map]
    exact (List.getElem?_eq_some_iff.1 hplace).2
  rw [arrange_eq, hfill, List.filterMap_map]
  exact List.filterMap_some

example : arrange 3 [(2, "third"), (0, "first"), (1, "second")] = ["first", "second", "third"] := by
  decide

/-- To change each value does not change the order. -/
theorem arrange_map {γ : Type} (f : β → γ) (count : Nat) (entries : List (Nat × β)) :
    arrange count (entries.map (Prod.map id f)) = (arrange count entries).map f := by
  have hfill := fill_map f (List.replicate count none) entries
  rw [List.map_replicate, Option.map_none] at hfill
  rw [arrange_eq, arrange_eq, hfill, List.filterMap_map, List.map_filterMap]
  rfl

/-! ### Crashes apart -/

/-- An arrival apart from the crash that it may be. -/
def splitArrival (arrival : Nat × Except Stop α) : Except String (Nat × Except Failure α) :=
  (Stop.split arrival.2).map (arrival.1, ·)

theorem gather_eq (count : Nat) (arrivals : List (Nat × Except Stop α)) :
    gather count arrivals = (arrivals.mapM splitArrival).map (arrange count) := rfl

theorem split_eq_error_iff {result : Except Stop α} {message : String} :
    Stop.split result = .error message ↔ result = .error (.crash message) := by
  constructor
  · intro h
    cases result with
    | ok value => cases h
    | error stop =>
      cases stop with
      | failure reason => cases h
      | crash text =>
        cases h
        rfl
  · rintro rfl
    rfl

/-- Where none of the results is a crash, each arrival comes from a value. -/
theorem exists_values {arrivals : List (Nat × Except Stop α)}
    (h : ∀ i message, (i, .error (.crash message)) ∉ arrivals) :
    ∃ entries, arrivals = entries.map (Prod.map id (Except.mapError .failure)) ∧
      arrivals.mapM splitArrival = .ok entries := by
  induction arrivals with
  | nil => exact ⟨[], rfl, rfl⟩
  | cons arrival arrivals ih =>
    obtain ⟨entries, hentries, hm⟩ := ih fun i message hm => h i message (List.mem_cons_of_mem _ hm)
    obtain ⟨i, result⟩ := arrival
    rw [List.mapM_cons, hm, hentries]
    cases result with
    | ok value => exact ⟨(i, .ok value) :: entries, rfl, rfl⟩
    | error stop =>
      cases stop with
      | failure reason => exact ⟨(i, .error reason) :: entries, rfl, rfl⟩
      | crash message => exact absurd List.mem_cons_self (h i message)

/-- The first crash among the arrivals is all that is left of them. -/
theorem exists_crash {arrivals : List (Nat × Except Stop α)}
    (h : ∃ i message, (i, .error (.crash message)) ∈ arrivals) :
    ∃ i message, (i, .error (.crash message)) ∈ arrivals ∧
      arrivals.mapM splitArrival = .error message := by
  induction arrivals with
  | nil =>
    obtain ⟨i, message, hm⟩ := h
    cases hm
  | cons arrival arrivals ih =>
    obtain ⟨j, result⟩ := arrival
    rw [List.mapM_cons]
    cases hs : Stop.split result with
    | error message =>
      have hfirst : splitArrival (j, result) = .error message := congrArg (Except.map (j, ·)) hs
      obtain rfl := split_eq_error_iff.1 hs
      rw [hfirst]
      exact ⟨j, message, List.mem_cons_self, rfl⟩
    | ok value =>
      have hfirst : splitArrival (j, result) = .ok (j, value) := congrArg (Except.map (j, ·)) hs
      obtain ⟨i, message, hm⟩ := h
      obtain he | hm := List.mem_cons.1 hm
      · cases he
        cases hs
      · obtain ⟨i, message, hm, he⟩ := ih ⟨i, message, hm⟩
        rw [hfirst, he]
        exact ⟨i, message, List.mem_cons_of_mem _ hm, rfl⟩

/-- **Results are gathered in order**, however they arrive: all of them, or the text of a crash if there is
one among them. -/
theorem gather_of_perm {results : List (Except Stop α)} {arrivals : List (Nat × Except Stop α)}
    (h : arrivals.Perm (results.zipIdx.map Prod.swap)) :
    ((∀ message, .error (.crash message) ∉ results) → ∃ values : List (Except Failure α),
      results = values.map (Except.mapError .failure) ∧ gather results.length arrivals = .ok values) ∧
    ((∃ message, .error (.crash message) ∈ results) →
      ∃ message, .error (.crash message) ∈ results ∧ gather results.length arrivals = .error message) := by
  have hmem {i : Nat} {result : Except Stop α} : (i, result) ∈ arrivals ↔ results[i]? = some result :=
    h.mem_iff.trans mem_swap_zipIdx
  constructor
  · intro hnone
    obtain ⟨entries, rfl, hm⟩ := exists_values fun i message hm =>
      hnone message (List.mem_of_getElem? (hmem.1 hm))
    -- the values are not known to be a permutation of the entries, but the results are one of the arrivals
    refine ⟨arrange results.length entries, ?_, ?_⟩
    · rw [← arrange_map]
      exact (arrange_of_perm h).symm
    · rw [gather_eq, hm]
      rfl
  · rintro ⟨message, hm⟩
    obtain ⟨i, hi⟩ := List.mem_iff_getElem?.1 hm
    obtain ⟨j, message, hm, he⟩ := exists_crash ⟨i, message, hmem.2 hi⟩
    refine ⟨message, List.mem_of_getElem? (hmem.1 hm), ?_⟩
    rw [gather_eq, he]
    rfl

/-! ### Whose result it is -/

/-- Queries are answered, or fail for ordinary reasons. -/
def Answered.Ordinary (e : Answered known) : Prop := e.step.Usual Build.QueryFault e.answer

/-- If an action fails for good, it is `key`, and for this loss. -/
def Stop.Blames (key : ActionKey) (loss : Loss) : Stop → Prop
  | .failure (.execution e) => e.action = key ∧ e.cause = loss
  | _ => True

/-- What the handling of a loss of inputs of `key` ends with belongs to these: a plan begins with the node of
the action, and a failure for good names the action and the loss. -/
def Labels (key : ActionKey) (loss : Loss) : Except Stop Outcome → Prop
  | .ok o => o.plan.restart.self = .action key
  | .error stop => stop.Blames key loss

namespace Planning

variable {key : ActionKey} {loss : Loss} {past : List (Answered known)}

/-- Queries blame nobody. -/
theorem blames_of_usual {stop : Stop} (h : stop.Usual Build.QueryFault) : stop.Blames key loss := by
  cases stop with
  | crash message => trivial
  | failure reason => cases reason <;> trivial

theorem recounts_of_inquires {x : Attempt known α}
    (hx : Inquires Build.QueryFault (Stop.Usual Build.QueryFault) x) :
    Recounts Answered.Ordinary past x (fun _ _ => True) fun _ stop => stop.Blames key loss :=
  (Recounts.of_inquires hx).mono (fun _ _ _ h => h) fun _ _ _ => blames_of_usual

theorem labels_recordAll (failed : Action) (lost : List (String × Input)) :
    Recounts Answered.Ordinary past (recordAll failed key loss lost : Attempt known Unit) (fun _ _ => True)
      fun _ stop => stop.Blames key loss := by
  induction lost generalizing past with
  | nil => exact .pure trivial
  | cons entry lost ih =>
    unfold recordAll
    refine .bind_any (.step _ fun _ _ => trivial) fun _ isNew => ?_
    cases isNew with
    | true => exact ih
    | false => exact .bind_any (.report _ trivial fun _ => trivial) fun _ _ => .fail ⟨rfl, rfl⟩

theorem labels_responsible (failed : Action) (directDeps : Std.ExtTreeSet Node) (runfiles : OwnerLookup) :
    Recounts Answered.Ordinary past (responsible failed directDeps loss runfiles : Attempt known Responsible)
      (fun _ _ => True) fun _ stop => stop.Blames key loss := by
  unfold responsible
  split
  case h_1 => exact .pure trivial
  case h_2 failure hr =>
    -- a misplaced input is no failure of an action
    have hblames : Stop.Blames key loss (.failure failure) := by
      obtain ⟨input, -, rfl⟩ := Ownership.resolve_eq_error.1 hr
      trivial
    split
    · exact .bind_any (.report _ trivial fun _ => trivial) fun _ _ => .fail hblames
    · exact .fail hblames

/-- A walk keeps the failed action of its plan. -/
theorem labels_rewindAll (b : Builder) (artifacts : List Artifact) :
    Recounts Answered.Ordinary past (Walk.rewindAll b artifacts : Walk known Builder)
      (fun _ b' => b'.failed = b.failed) fun _ e => e.1.Blames key loss := by
  have hinquires : Inquires Build.QueryFault (fun e => e.1.Usual Build.QueryFault)
      (Walk.rewindAll b artifacts : Walk known Builder) := Walk.inquires_rewindAll trivial b artifacts
  have hgrows := (Walk.grows_rewindAll b artifacts past).restrict fun e (_ : e.Ordinary) => trivial
  refine ((Recounts.of_inquires hinquires).and hgrows).mono fun _ result _ hr => ?_
  cases result with
  | ok b' =>
    obtain ⟨-, fresh, calls, rfl, -⟩ := hr
    exact Builder.failed_callAll calls
  | error e => exact blames_of_usual hr.1

theorem labels_planFor (failed : Action) (directDeps : Std.ExtTreeSet Node) (runfiles : OwnerLookup) :
    Recounts Answered.Ordinary past (planFor failed key directDeps loss runfiles : Attempt known Plan)
      (fun _ plan => plan.restart.self = .action key) fun _ stop => stop.Blames key loss := by
  unfold planFor checkNotRepeated
  refine .bind_any (labels_recordAll failed _) fun _ _ => ?_
  refine .bind_any (labels_responsible failed directDeps runfiles) fun _ r => ?_
  simp only
  split
  case isTrue => exact .bind (.fail ⟨rfl, rfl⟩) fun _ _ _ (hnever : False) => hnever.elim
  case isFalse =>
    refine .bind (.adapt Prod.fst (labels_rewindAll _ _)) fun _ b _ hb => .pure ?_
    exact congrArg Node.action hb

/-- **The end of a handling shows whose it is**, whatever the steps are answered. -/
theorem labels_handle (maxRewinds : UInt32) (runfiles : Owners) (key : ActionKey) (loss : Loss) :
    (handle maxRewinds runfiles key loss : Attempt known Outcome).run.Tells Answered.Ordinary
      (fun _ => Labels key loss) [] := by
  have h : Recounts Answered.Ordinary [] (handle maxRewinds runfiles key loss : Attempt known Outcome)
      (fun _ o => Labels key loss (.ok o)) fun _ stop => Labels key loss (.error stop) := by
    unfold handle
    refine .bind_any (recounts_of_inquires (.checkInterrupt trivial)) fun _ _ => ?_
    refine .bind_any (recounts_of_inquires (.lookup key)) fun _ failed => ?_
    refine .bind_any (.step _ fun _ _ => trivial) fun _ attempt => ?_
    split
    case isTrue => exact .bind (.fail ⟨rfl, rfl⟩) fun _ _ _ (hnever : False) => hnever.elim
    case isFalse =>
      refine .bind (labels_planFor failed.1 failed.1.directDeps runfiles) fun _ plan _ hplan => ?_
      refine .bind_any (recounts_invalidateAll _) fun _ invalidated => ?_
      exact .bind_any (recounts_evictAll _) fun _ evicted => .pure hplan
  refine Tells.mono h fun _ result _ hr => ?_
  cases result <;> exact hr

end Planning

theorem Build.ordinary_of_answer {g : Graph} {reporter : Reporter} {e : Answered g.roster} {b : Build}
    (h : ((Build.world g reporter).answer e.step b).1 = e.answer) : e.Ordinary := by
  obtain ⟨step, answer⟩ := e
  change ((Build.world g reporter).answer step b).1 = answer at h
  subst h
  by_cases hq : step.IsQuery
  case pos => exact (world_answer_of_isQuery g reporter step b hq).1
  case neg =>
    cases step with
    | interrupted | discover _ | lookup _ => exact absurd trivial hq
    | record _ _ | report _ | attempt _ | invalidate _ | evict _ => trivial

/-! ### All handlings -/

namespace Session

variable {s : Session} {losses : List (ActionKey × Loss)}

theorem getElem?_members_crew {i : Nat} {key : ActionKey} {loss : Loss} (h : losses[i]? = some (key, loss)) :
    (s.crew losses).members[i]? = some (s.handling key loss).run := by
  unfold crew
  rw [List.getElem?_map, h]
  rfl

/-- The result at a place is what the handling of the loss at this place comes to among the others. -/
theorem getElem?_results_iff {schedule : List Nat} {results : List (Except Stop Outcome)}
    (hr : ((s.crew losses).work (Build.world s.graph s.reporter) schedule).results? = some results)
    {i : Nat} {key : ActionKey} {loss : Loss} (hi : losses[i]? = some (key, loss))
    {result : Except Stop Outcome} : results[i]? = some result ↔ (s.handling key loss).run.Comes
      ((s.crew losses).events (Build.world s.graph s.reporter) i schedule) (.done result) := by
  obtain ⟨p, hp, hcomes⟩ := Crew.exists_comes_work (getElem?_members_crew (s := s) hi) schedule
  obtain ⟨value, hv, hvalue⟩ := Crew.getElem?_of_results? hr hp
  obtain rfl : p = .done value := by
    cases p with
    | done _ => exact congrArg Procedure.done (Option.some.inj hv)
    | ask _ _ => cases hv
  rw [hvalue]
  constructor
  · intro he
    rwa [← Option.some.inj he]
  · intro h
    cases hcomes.unique h
    rfl

/-- It belongs to the loss at this place. -/
theorem labels_of_results? {schedule : List Nat} {results : List (Except Stop Outcome)}
    (hr : ((s.crew losses).work (Build.world s.graph s.reporter) schedule).results? = some results)
    {i : Nat} {key : ActionKey} {loss : Loss} (hi : losses[i]? = some (key, loss))
    {result : Except Stop Outcome} (hresult : results[i]? = some result) : Labels key loss result := by
  have htells : (s.handling key loss).run.Tells Answered.Ordinary (fun _ => Labels key loss) [] :=
    labels_handle s.maxRewinds s.graph.runfilesOwners key loss
  refine htells.of_comes ((getElem?_results_iff hr hi).1 hresult) fun e he => ?_
  obtain ⟨b, hb⟩ := Crew.exists_of_mem_events he
  exact Build.ordinary_of_answer hb

/-- Each of the `values` is at the place of its loss, when these are handled side by side in the turns of a
schedule. -/
structure LinesUp (s : Session) (losses : List (ActionKey × Loss)) (schedule : List Nat)
    (values : List (Except Failure Outcome)) : Prop where
  length : values.length = losses.length
  /-- The value at a place is what the handling of the loss at this place comes to. -/
  result {i : Nat} {key : ActionKey} {loss : Loss} {value : Except Failure Outcome} :
    losses[i]? = some (key, loss) → (values[i]? = some value ↔ (s.handling key loss).run.Comes
      ((s.crew losses).events (Build.world s.graph s.reporter) i schedule)
      (.done (value.mapError .failure)))
  self {i : Nat} {key : ActionKey} {loss : Loss} {o : Outcome} : losses[i]? = some (key, loss) →
    values[i]? = some (.ok o) → o.plan.restart.self = .action key
  blamed {i : Nat} {key : ActionKey} {loss : Loss} {e : ExecutionFailure} :
    losses[i]? = some (key, loss) → values[i]? = some (.error (.execution e)) →
      e.action = key ∧ e.cause = loss

theorem mapError_failure_injective :
    Function.Injective (Except.mapError Stop.failure : Except Failure α → Except Stop α) := by
  intro value value' h
  cases value <;> cases value' <;> cases h <;> rfl

theorem length_results {schedule : List Nat} {results : List (Except Stop Outcome)}
    (hr : ((s.crew losses).work (Build.world s.graph s.reporter) schedule).results? = some results) :
    results.length = losses.length := by
  have hlength := Crew.length_members_work (Build.world s.graph s.reporter) (s.crew losses) schedule
  rw [Crew.members_of_results? hr, List.length_map] at hlength
  exact hlength.trans (List.length_map _)

theorem linesUp_of_results? {schedule : List Nat} {values : List (Except Failure Outcome)}
    (hr : ((s.crew losses).work (Build.world s.graph s.reporter) schedule).results? =
      some (values.map (Except.mapError .failure))) : s.LinesUp losses schedule values := by
  have hplace {i : Nat} {value : Except Failure Outcome} : values[i]? = some value ↔
      (values.map (Except.mapError Stop.failure))[i]? = some (value.mapError .failure) := by
    rw [List.getElem?_map]
    exact (Option.map_injective mapError_failure_injective).eq_iff.symm
  constructor
  case length => exact (List.length_map _).symm.trans (length_results hr)
  case result => exact fun hi => hplace.trans (getElem?_results_iff hr hi)
  case self => exact fun hi hvalue => labels_of_results? hr hi (hplace.1 hvalue)
  case blamed => exact fun hi hvalue => labels_of_results? hr hi (hplace.1 hvalue)

/-- **Results line up with their losses.** Let some losses be handled side by side on one build. If each
handling has its turn again and again, all of them end, with the same results from then on. Whatever turns
they have had when all have ended, and in whatever order the results arrive: if none is a crash, as many are
gathered as there are losses, each at the place of its loss; and if some is a crash, nothing is gathered but
the text of one. -/
theorem gather_of_crew (s : Session) (losses : List (ActionKey × Loss)) :
    (∀ schedule, Fair losses.length schedule → ∃ n results, ∀ m, n ≤ m →
      ((s.crew losses).work (Build.world s.graph s.reporter) (firstTurns schedule m)).results? =
        some results) ∧
    ∀ turns results,
      ((s.crew losses).work (Build.world s.graph s.reporter) turns).results? = some results →
      ∀ arrivals, arrivals.Perm (results.zipIdx.map Prod.swap) →
        ((∀ message, .error (.crash message) ∉ results) → ∃ values,
          results = values.map (Except.mapError .failure) ∧
          gather losses.length arrivals = .ok values ∧ s.LinesUp losses turns values) ∧
        ((∃ message, .error (.crash message) ∈ results) → ∃ message,
          .error (.crash message) ∈ results ∧ gather losses.length arrivals = .error message) := by
  constructor
  · intro schedule hfair
    have hmembers : Fair (s.crew losses).members.length schedule := by
      unfold crew
      rwa [List.length_map]
    exact Crew.exists_results hmembers
  · intro turns results hr arrivals harrivals
    obtain ⟨hvalues, hcrash⟩ := gather_of_perm harrivals
    rw [length_results hr] at hvalues hcrash
    refine ⟨fun hnone => ?_, hcrash⟩
    obtain ⟨values, rfl, hgather⟩ := hvalues hnone
    exact ⟨values, rfl, hgather, linesUp_of_results? hr⟩

/-- Losses of two actions, and the first one over again. -/
def rivals : List (ActionKey × Loss) := halfwayLosses ++ [(⟨"//f", 0⟩, halfwayLoss)]

/-- Whether a handling ended with an outcome, unless it crashed. -/
def verdict? (result : Except Stop Outcome) : Option Bool := (Stop.split result).toOption.map Except.isOk

/-- The first action is rewound for one of its losses only. The other result stays in the last place, even if
it arrives first. -/
theorem gather_of_crew_rivals : ∃ (turns : List Nat) (values : List (Except Failure Outcome)),
    gather rivals.length ((values.map (Except.mapError .failure)).zipIdx.map Prod.swap).reverse = .ok values ∧
    halfway.LinesUp rivals turns values ∧
    values.map (fun value => verdict? (value.mapError .failure)) = [some true, some true, some false] := by
  have hfair : Fair rivals.length (· % 3) := by
    intro i hi m
    have hi : i < 3 := hi
    exact ⟨i + 2 * m, show (m + (i + 2 * m)) % 3 = i by omega⟩
  obtain ⟨n, results, hr⟩ := (gather_of_crew halfway rivals).1 (· % 3) hfair
  have hsoon : ((halfway.crew rivals).work (Build.world halfway.graph halfway.reporter)
      (firstTurns (· % 3) 90)).results?.map (List.map verdict?) =
        some [some true, some true, some false] := by decide +kernel
  obtain ⟨ended, hended, hverdicts⟩ := Option.map_eq_some_iff.1 hsoon
  have hlater := Crew.results?_of_le (Nat.le_max_right n 90) hended
  obtain rfl := Option.some.inj ((hr _ (Nat.le_max_left n 90)).symm.trans hlater)
  have hnone (message : String) : .error (.crash message) ∉ results := by
    intro hm
    have hverdict := List.mem_map_of_mem (f := verdict?) hm
    rw [hverdicts] at hverdict
    simp [verdict?, Stop.split, Except.toOption] at hverdict
  obtain ⟨values, rfl, hvalues, hlines⟩ := ((gather_of_crew halfway rivals).2 _ _
    (hr n (Nat.le_refl n)) _ (List.reverse_perm _)).1 hnone
  rw [List.map_map] at hverdicts
  exact ⟨firstTurns (· % 3) n, values, hvalues, hlines, hverdicts⟩

end Session

end Rewinding
