import Mathlib.Data.Nat.Find
import Rewinding.Proofs.Tally
import Rewinding.Proofs.Trace

/-!
# All members of a crew come to their ends

A computation takes finitely many steps, whatever these are answered. So when each member of a crew has its
turn again and again, all have ended after finitely many turns, and nothing changes from then on
(`Crew.exists_results`). Nothing is assumed of how their turns are mixed.

What a member ends with is what it makes of its answers, and those depend on the others, which change the
state in between. `Procedure.Comes` says to what a procedure comes by some answers, and `Crew.events` lists
those that a member is given.
-/

namespace Rewinding

variable {known : List Action} {α σ : Type}

/-! ### One computation, step by step -/

namespace Procedure

/-- To take the steps that `events` list, with the answers there, is to come to another procedure. -/
inductive Comes : Procedure known α → List (Answered known) → Procedure known α → Prop where
  | here (p : Procedure known α) : Comes p [] p
  | answered {step : Step known} {next : step.Answer → Procedure known α} {answer : step.Answer}
      {events : List (Answered known)} {p : Procedure known α} :
      Comes (next answer) events p → Comes (.ask step next) (⟨step, answer⟩ :: events) p

/-- What a procedure comes to is settled by the answers. -/
theorem Comes.unique {p q q' : Procedure known α} {events : List (Answered known)} (h : p.Comes events q)
    (h' : p.Comes events q') : q = q' := by
  induction h with
  | here p =>
    cases h'
    rfl
  | answered _ ih =>
    cases h' with
    | answered h' => exact ih h'

/-- What is told of a computation holds of the value to which it comes. -/
theorem Tells.of_comes {allowed : Answered known → Prop} {post : List (Answered known) → α → Prop}
    {past events : List (Answered known)} {p : Procedure known α} {value : α}
    (hp : p.Tells allowed post past) (hc : p.Comes events (.done value)) (ha : ∀ e ∈ events, allowed e) :
    post (past ++ events) value := by
  generalize hq : done value = q at hc
  induction hc generalizing past with
  | here p =>
    subst hq
    rw [List.append_nil]
    exact hp
  | @answered step next answer events p _ ih =>
    obtain ⟨he, ha⟩ := List.forall_mem_cons.1 ha
    rw [List.append_cons]
    exact ih (hp answer he) ha hq

end Procedure

/-! ### One member among others -/

namespace Crew

/-- The step that the member at place `i` takes in a turn of the member at place `j`, with its answer. -/
def eventIn (world : World known σ) (c : Crew known α σ) (i j : Nat) : List (Answered known) :=
  if j = i then
    match c.members[i]? with
    | some (.ask step _) => [⟨step, (world.answer step c.state).1⟩]
    | _ => []
  else []

/-- The steps that the member at place `i` takes while a crew works off a schedule, with their answers. -/
def events (world : World known σ) (i : Nat) (c : Crew known α σ) : List Nat → List (Answered known)
  | [] => []
  | j :: js => c.eventIn world i j ++ (c.turn world j).events world i js

variable {world : World known σ} {c : Crew known α σ} {i : Nat}

theorem getElem?_members_turn_of_ne {j : Nat} (h : j ≠ i) :
    (c.turn world j).members[i]? = c.members[i]? := by
  cases hj : c.members[j]? with
  | none => rw [turn_of_length_le world (List.getElem?_eq_none_iff.1 hj)]
  | some member => rw [getElem?_members_turn world hj, if_neg h]

/-- The state answers what a member asks. -/
theorem exists_of_mem_eventIn {j : Nat} {e : Answered known} (h : e ∈ c.eventIn world i j) :
    ∃ t, (world.answer e.step t).1 = e.answer := by
  unfold eventIn at h
  split at h
  case isFalse => cases h
  case isTrue =>
    split at h
    case h_1 =>
      obtain rfl := List.mem_singleton.1 h
      exact ⟨c.state, rfl⟩
    case h_2 => cases h

theorem exists_of_mem_events {schedule : List Nat} {e : Answered known}
    (h : e ∈ c.events world i schedule) : ∃ t, (world.answer e.step t).1 = e.answer := by
  induction schedule generalizing c with
  | nil => cases h
  | cons j schedule ih =>
    obtain h | h := List.mem_append.1 h
    · exact exists_of_mem_eventIn h
    · exact ih h

/-- **A member comes along by what it is answered**, whatever the others do in between. -/
theorem exists_comes_work {p : Procedure known α} (hp : c.members[i]? = some p) (schedule : List Nat) :
    ∃ q, (c.work world schedule).members[i]? = some q ∧ p.Comes (c.events world i schedule) q := by
  induction schedule generalizing c p with
  | nil => exact ⟨p, hp, .here p⟩
  | cons j schedule ih =>
    rw [work_cons, events, eventIn]
    by_cases hj : j = i
    case neg =>
      rw [if_neg hj, List.nil_append]
      exact ih ((getElem?_members_turn_of_ne hj).trans hp)
    case pos =>
      subst hj
      rw [if_pos rfl, hp]
      cases p with
      | done value =>
        rw [turn_of_done world hp]
        exact ih hp
      | ask step next =>
        have hturn := getElem?_members_turn world hp j
        rw [if_pos rfl] at hturn
        obtain ⟨q, hq, hcomes⟩ := ih hturn
        exact ⟨q, hq, .answered hcomes⟩

/-! ### All members -/

theorem length_members_work (world : World known σ) (c : Crew known α σ) (schedule : List Nat) :
    (c.work world schedule).members.length = c.members.length := by
  induction schedule generalizing c with
  | nil => rfl
  | cons j schedule ih => exact (ih _).trans (c.length_members_turn world j)

/-- A crew whose members have all ended has results. -/
theorem exists_results?_of_done (h : ∀ i < c.members.length, ∃ value, c.members[i]? = some (.done value)) :
    ∃ results, c.results? = some results := by
  unfold results?
  generalize c.members = members at h
  induction members with
  | nil => exact ⟨[], rfl⟩
  | cons member members ih =>
    obtain ⟨value, hv⟩ := h 0 (Nat.zero_lt_succ _)
    obtain rfl : member = .done value := Option.some.inj hv
    obtain ⟨results, hr⟩ := ih fun i hi => h (i + 1) (Nat.succ_lt_succ hi)
    refine ⟨value :: results, ?_⟩
    rw [List.mapM_cons, hr]
    rfl

/-- When all members have ended, turns change nothing. -/
theorem work_of_results? {results : List α} (h : c.results? = some results) (schedule : List Nat) :
    c.work world schedule = c := by
  induction schedule with
  | nil => rfl
  | cons j schedule ih =>
    have hidle : c.turn world j = c := by
      by_cases hj : j < results.length
      · have hdone : c.members[j]? = some (.done results[j]) := by
          rw [members_of_results? h, List.getElem?_map, List.getElem?_eq_getElem hj]
          rfl
        exact turn_of_done world hdone
      · refine turn_of_length_le world ?_
        rw [members_of_results? h, List.length_map]
        exact Nat.le_of_not_lt hj
    rw [work_cons, hidle, ih]

end Crew

/-! ### Turns without end -/

/-- Each of `n` members has its turn again and again. -/
def Fair (n : Nat) (schedule : Nat → Nat) : Prop := ∀ i < n, ∀ m, ∃ k, schedule (m + k) = i

/-- The first turns of a schedule without end. -/
def firstTurns (schedule : Nat → Nat) (n : Nat) : List Nat := (List.range n).map schedule

theorem firstTurns_succ (schedule : Nat → Nat) (n : Nat) :
    firstTurns schedule (n + 1) = firstTurns schedule n ++ [schedule n] := by
  unfold firstTurns
  rw [List.range_succ, List.map_append]
  rfl

namespace Crew

variable (world : World known σ) (c : Crew known α σ) {schedule : Nat → Nat} {i : Nat}

theorem work_firstTurns_succ (schedule : Nat → Nat) (n : Nat) :
    c.work world (firstTurns schedule (n + 1)) =
      (c.work world (firstTurns schedule n)).turn world (schedule n) := by
  rw [firstTurns_succ, work_append]
  rfl

variable {world c}

/-- A member stays as it is until its turn comes. -/
theorem getElem?_members_add {m k : Nat} (h : ∀ j < k, schedule (m + j) ≠ i) :
    (c.work world (firstTurns schedule (m + k))).members[i]? =
      (c.work world (firstTurns schedule m)).members[i]? := by
  induction k with
  | zero => rfl
  | succ k ih =>
    rw [← Nat.add_assoc, work_firstTurns_succ, getElem?_members_turn_of_ne (h k (Nat.lt_succ_self k))]
    exact ih fun j hj => h j (Nat.lt_succ_of_lt hj)

/-- What has ended stays so. -/
theorem done_of_le {m n : Nat} {value : α} (hle : m ≤ n)
    (h : (c.work world (firstTurns schedule m)).members[i]? = some (.done value)) :
    (c.work world (firstTurns schedule n)).members[i]? = some (.done value) := by
  induction n, hle using Nat.le_induction with
  | base => exact h
  | succ n _ ih =>
    rw [work_firstTurns_succ]
    by_cases hi : schedule n = i
    · subst hi
      rwa [turn_of_done world ih]
    · rwa [getElem?_members_turn_of_ne hi]

/-- A member ends that has its turn again and again. The induction is on what the member still has to do,
which is one step less after its next turn. -/
theorem exists_done (hfair : ∀ m, ∃ k, schedule (m + k) = i) (p : Procedure known α) (m : Nat)
    (hp : (c.work world (firstTurns schedule m)).members[i]? = some p) :
    ∃ n value, (c.work world (firstTurns schedule n)).members[i]? = some (.done value) := by
  induction p generalizing m with
  | done value => exact ⟨m, value, hp⟩
  | ask step next ih =>
    have hturn := Nat.find_spec (hfair m)
    have hwaits := (getElem?_members_add fun j => Nat.find_min (hfair m)).trans hp
    have hnext := getElem?_members_turn world hwaits i
    rw [if_pos rfl] at hnext
    refine ih _ (m + Nat.find (hfair m) + 1) (Eq.trans ?_ hnext)
    rw [work_firstTurns_succ, hturn]

theorem results?_of_le {m n : Nat} {results : List α} (hle : m ≤ n)
    (h : (c.work world (firstTurns schedule m)).results? = some results) :
    (c.work world (firstTurns schedule n)).results? = some results := by
  induction n, hle using Nat.le_induction with
  | base => exact h
  | succ n _ ih =>
    rw [work_firstTurns_succ]
    exact (congrArg results? (work_of_results? ih [schedule n])).trans ih

/-- **A crew comes to its end when no member is left out.** From some turn on all members have ended, and
with the same results for ever. -/
theorem exists_results (hfair : Fair c.members.length schedule) :
    ∃ n results, ∀ m, n ≤ m → (c.work world (firstTurns schedule m)).results? = some results := by
  -- what has ended first is still so when the last one ends
  have hended : ∀ k ≤ c.members.length, ∃ n, ∀ i < k, ∃ value,
      (c.work world (firstTurns schedule n)).members[i]? = some (.done value) := by
    intro k hk
    induction k with
    | zero => exact ⟨0, nofun⟩
    | succ k ih =>
      obtain ⟨n, hn⟩ := ih (Nat.le_of_succ_le hk)
      have hstart : (c.work world (firstTurns schedule 0)).members[k]? = some c.members[k] :=
        List.getElem?_eq_getElem hk
      obtain ⟨n', value, hn'⟩ := exists_done (hfair k hk) _ 0 hstart
      refine ⟨max n n', fun i hi => ?_⟩
      obtain hi | rfl := Nat.lt_succ_iff_lt_or_eq.1 hi
      · obtain ⟨value, hv⟩ := hn i hi
        exact ⟨value, done_of_le (Nat.le_max_left n n') hv⟩
      · exact ⟨value, done_of_le (Nat.le_max_right n n') hn'⟩
  obtain ⟨n, hn⟩ := hended c.members.length (Nat.le_refl _)
  rw [← length_members_work world c (firstTurns schedule n)] at hn
  obtain ⟨results, hr⟩ := exists_results?_of_done hn
  exact ⟨n, results, fun m hm => results?_of_le hm hr⟩

end Crew

end Rewinding
