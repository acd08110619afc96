import Rewinding.Proofs.Limit

/-!
# What the number of an attempt counts

A rewind is handed out with the number of its attempt, which is meant to be the number of rewinds of
its action in the build, and an action is refused when there were as many rewinds as are allowed. But
the counter goes up before it is known how an attempt ends. An attempt that fails for another reason
than its number is *spoilt*: it is counted like a rewind and is none.

Within a round of the counter the attempts that are not refused are the first ones
(`rewinds_add_spoils`). So the number of a rewind is that of the rewinds and of the spoilt attempts up
to it, and an action is refused when these are together as many as is allowed (`attempt_of_play`). Both
count rewinds as long as no attempt was spoilt, and miscount with the first one (`attempt_miscounted`).
-/

namespace Rewinding

namespace Session

open Planning

/-! ### Attempts -/

/-- What an attempt to rewind `key` ends with, if a move is one. -/
def triesOf (s : Session) (key : ActionKey) (move : Move) : List (Except Stop Outcome) :=
  if s.Admits key then s.resultOf key move else []

/-- What the attempts to rewind `key` end with in a run. -/
def tries (key : ActionKey) (s : Session) : List Move → List (Except Stop Outcome)
  | [] => []
  | move :: moves => s.triesOf key move ++ (s.make move).tries key moves

theorem tries_cons (key : ActionKey) (s : Session) (move : Move) (moves : List Move) :
    s.tries key (move :: moves) = s.triesOf key move ++ (s.make move).tries key moves := rfl

/-- An attempt failed, and not for its number. -/
def spoilt : Except Stop Outcome → Bool
  | .ok _ => false
  | .error stop => stop.fault? ≠ some .limitExceeded

/-- How often `key` is rewound in a run. -/
def rewinds (s : Session) (key : ActionKey) (moves : List Move) : Nat :=
  (s.results key moves).countP (·.isOk)

/-- How many attempts to rewind `key` are spoilt in a run. -/
def spoils (s : Session) (key : ActionKey) (moves : List Move) : Nat :=
  (s.tries key moves).countP spoilt

theorem exceeded_iff {result : Except Stop Outcome} :
    Exceeded result ↔ result.isOk = false ∧ spoilt result = false := by
  cases result with
  | ok o => exact iff_of_false (not_exceeded_ok o) fun h => Bool.noConfusion h.1
  | error stop =>
    rw [exceeded_error]
    show _ ↔ _ ∧ decide (stop.fault? ≠ some .limitExceeded) = false
    rw [decide_eq_false_iff_not, not_not]
    exact ⟨fun h => ⟨rfl, h⟩, fun h => h.2⟩

/-- An attempt that is not refused for its number is a rewind or spoilt. -/
theorem countP_singleton_of_not_exceeded {result : Except Stop Outcome} (h : ¬Exceeded result) :
    [result].countP (·.isOk) + [result].countP spoilt = 1 := by
  cases result with
  | ok o => rfl
  | error stop =>
    have hspoilt : spoilt (.error stop) = true := decide_eq_true fun hf => h (exceeded_error.2 hf)
    rw [List.countP_singleton, List.countP_singleton, hspoilt]
    rfl

theorem countP_singleton_of_exceeded {result : Except Stop Outcome} (h : Exceeded result) :
    [result].countP (·.isOk) + [result].countP spoilt = 0 := by
  cases result with
  | ok o => exact absurd h (not_exceeded_ok o)
  | error stop =>
    have hspoilt : spoilt (.error stop) = false := decide_eq_false fun hf => hf (exceeded_error.1 h)
    rw [List.countP_singleton, List.countP_singleton, hspoilt]
    rfl

/-! ### How attempts are counted -/

/-- How a move counts, unless a new build begins with it: as no attempt, which is no rewind either, or
as one that is refused for its number in the round of the counter. -/
theorem tries_make {s : Session} {key : ActionKey} {n : Nat} (h : s.Shows key n) {move : Move}
    (hmove : move ≠ .begin) :
    (s.triesOf key move = [] ∧ (s.make move).Shows key n ∧
      (s.resultOf key move).countP (·.isOk) = 0) ∨
    ∃ result, s.triesOf key move = [result] ∧ s.resultOf key move = [result] ∧
      (s.make move).Shows key (n + 1) ∧ (Exceeded result ↔ s.maxRewinds.toNat < (n + 1) % 2 ^ 32) := by
  unfold triesOf
  cases move with
  | begin => exact absurd rfl hmove
  | cancel | complete _ => exact Or.inl ⟨by split <;> rfl, h, rfl⟩
  | handle k loss =>
    by_cases hk : k = key
    case neg =>
      rw [resultOf_handle_of_ne _ _ hk]
      exact Or.inl ⟨by split <;> rfl, h.handle_of_ne hk loss, rfl⟩
    case pos =>
      subst hk
      rw [resultOf_handle]
      by_cases hadmits : s.Admits k
      case neg =>
        obtain ⟨hok, -, hbuild⟩ := handle_of_not_admits hadmits loss
        refine Or.inl ⟨if_neg hadmits, h.congr (congrArg Build.attempts hbuild), ?_⟩
        rw [List.countP_singleton, if_neg (by rw [hok]; exact nofun)]
      case pos =>
        exact Or.inr ⟨_, if_pos hadmits, rfl, h.handle hadmits loss⟩

variable {s : Session} {key : ActionKey} {n : Nat} {moves : List Move}

/-- The counter shows the number of attempts. -/
theorem shows_play (h : s.Shows key n) (hmoves : .begin ∉ moves) :
    (s.play moves).Shows key (n + (s.tries key moves).length) := by
  induction moves generalizing s n with
  | nil => exact h
  | cons move moves ih =>
    rw [List.mem_cons, not_or] at hmoves
    rw [play_cons, tries_cons, List.length_append]
    obtain ⟨htries, hshows, -⟩ | ⟨result, htries, -, hshows, -⟩ := tries_make h (Ne.symm hmoves.1)
    · rw [htries, List.length_nil, Nat.zero_add]
      exact ih hshows hmoves.2
    · rw [htries, List.length_singleton, ← Nat.add_assoc]
      exact ih hshows hmoves.2

/-- Rewinds and spoilt attempts are together the attempts that are not refused. -/
theorem rewinds_add_spoils (h : s.Shows key n) (hmoves : .begin ∉ moves) :
    allowance s.maxRewinds.toNat n + s.rewinds key moves + s.spoils key moves =
      allowance s.maxRewinds.toNat (n + (s.tries key moves).length) := by
  have hl := s.maxRewinds.toNat_lt
  unfold rewinds spoils
  induction moves generalizing s n with
  | nil => rfl
  | cons move moves ih =>
    rw [List.mem_cons, not_or] at hmoves
    rw [results_cons, tries_cons, List.countP_append, List.countP_append, List.length_append]
    obtain ⟨htries, hshows, hok⟩ | ⟨result, htries, hresult, hshows, hexceeded⟩ :=
      tries_make h (Ne.symm hmoves.1)
    · have hrest := ih hshows hmoves.2 (by rwa [maxRewinds_make])
      rw [maxRewinds_make] at hrest
      rw [htries, hok, List.countP_nil, List.length_nil, Nat.zero_add, Nat.zero_add, Nat.zero_add]
      exact hrest
    · have hrest := ih hshows hmoves.2 (by rwa [maxRewinds_make])
      rw [maxRewinds_make, allowance_succ hl] at hrest
      have hlength : n + ([result].length + ((s.make move).tries key moves).length) =
          n + 1 + ((s.make move).tries key moves).length := by
        rw [List.length_singleton, Nat.add_assoc]
      rw [htries, hresult, hlength, ← hrest]
      by_cases he : Exceeded result
      · have hnone := countP_singleton_of_exceeded he
        rw [if_neg (Nat.not_le.2 (hexceeded.1 he))]
        omega
      · have hone := countP_singleton_of_not_exceeded he
        rw [if_pos (Nat.not_lt.1 fun hlt => he (hexceeded.2 hlt))]
        omega

/-! ### The number of a rewind -/

theorem allowance_of_lt {limit n : Nat} (h : n < 2 ^ 32) : allowance limit n = min n limit := by
  rw [allowance, Nat.div_eq_of_lt h, Nat.mod_eq_of_lt h, Nat.zero_mul, Nat.zero_add]

/-- A rewind is handed out with the number of its attempt, within the round of the counter. -/
theorem toNat_attempt (h : s.Shows key n) {loss : Loss} {o : Outcome}
    (ho : (s.handle key loss).1 = .ok o) : o.attempt.toNat = (n + 1) % 2 ^ 32 := by
  rw [(applied_handle ho).outcome]
  exact h.toNat_add_one

/-- **What the number of a rewind counts.** As long as fewer attempts are made in a build than the
counter holds, an action is rewound with the number of its rewinds, this one included, and of its
spoilt attempts; and it is refused when these are as many as is allowed. So both count rewinds just as
long as no attempt was spoilt. In a longer build the number is that within the round of the counter,
and more attempts are not refused. -/
theorem attempt_of_play (s : Session) (key : ActionKey) {moves : List Move} (hmoves : .begin ∉ moves)
    (loss : Loss) :
    (s.make .begin).rewinds key moves + (s.make .begin).spoils key moves =
      allowance s.maxRewinds.toNat ((s.make .begin).tries key moves).length ∧
    (∀ o, (((s.make .begin).play moves).handle key loss).1 = .ok o →
      o.attempt.toNat = (((s.make .begin).tries key moves).length + 1) % 2 ^ 32) ∧
    (((s.make .begin).tries key moves).length + 1 < 2 ^ 32 →
      (∀ o, (((s.make .begin).play moves).handle key loss).1 = .ok o →
        o.attempt.toNat =
          (s.make .begin).rewinds key moves + 1 + (s.make .begin).spoils key moves) ∧
      (Exceeded (((s.make .begin).play moves).handle key loss).1 →
        (s.make .begin).rewinds key moves + (s.make .begin).spoils key moves =
          s.maxRewinds.toNat)) := by
  have hbegun := s.shows_begin key
  have hshows := shows_play hbegun hmoves
  have hsum := rewinds_add_spoils hbegun hmoves
  rw [maxRewinds_make, allowance_of_lt (by omega), Nat.zero_min, Nat.zero_add, Nat.zero_add] at hsum
  rw [Nat.zero_add] at hshows
  have hmax : ((s.make .begin).play moves).maxRewinds = s.maxRewinds := by
    rw [maxRewinds_play, maxRewinds_make]
  generalize (s.make .begin).rewinds key moves = rewinds at hsum ⊢
  generalize (s.make .begin).spoils key moves = spoils at hsum ⊢
  generalize ((s.make .begin).tries key moves).length = tries at hshows hsum ⊢
  generalize (s.make .begin).play moves = t at hshows hmax ⊢
  refine ⟨hsum, fun o => toNat_attempt hshows, fun hround => ?_⟩
  have hnumber := hshows.toNat_add_one
  rw [Nat.mod_eq_of_lt hround] at hnumber
  rw [allowance_of_lt (by omega)] at hsum
  constructor
  · intro o ho
    have hadmitted := (applied_handle ho).admitted
    rw [hmax, gt_iff_lt, UInt32.lt_iff_toNat_lt, hnumber] at hadmitted
    rw [toNat_attempt hshows ho, Nat.mod_eq_of_lt hround]
    omega
  · intro he
    by_cases hadmits : t.Admits key
    case neg => exact absurd he (handle_of_not_admits hadmits loss).2.1
    case pos =>
      have hlt := (hshows.handle hadmits loss).2.1 he
      rw [hmax, Nat.mod_eq_of_lt hround] at hlt
      omega

end Session

/-- One action, which may be rewound three times in a build. -/
def Description.patient : Description where
  settings := { maxRewinds := 3 }
  actions := Std.ExtTreeMap.ofList [("//f#0", ({ outputs := ["out/f"] } : ActionSection))]

/-- The loss of an input that nothing accounts for. -/
def Loss.stray (digest : String) : Loss := .ofEntries "" [(digest, .virtual "stray")] ∅

namespace Session

def patient : Session :=
  blank Description.patient.accepted .log Description.patient.accepted.settings.maxRewinds

/-- The losses of inputs with some digests, one after another. -/
def straying (digests : List String) : List Move :=
  digests.map fun digest => .handle ⟨"//f", 0⟩ (.stray digest)

/-- **An attempt that fails is counted as a rewind.** The action loses the same input twice, which is
an attempt and no rewind. The next rewind of it is its second one and is handed out as the third; and
then it is refused, although three rewinds are allowed. -/
theorem attempt_miscounted : ∃ o,
    (((patient.make .begin).play (straying ["1", "1"])).handle ⟨"//f", 0⟩ (.stray "2")).1 = .ok o ∧
    o.attempt.toNat ≠ (patient.make .begin).rewinds ⟨"//f", 0⟩ (straying ["1", "1"]) + 1 ∧
    Exceeded (((patient.make .begin).play (straying ["1", "1", "2"])).handle ⟨"//f", 0⟩
      (.stray "3")).1 ∧
    (patient.make .begin).rewinds ⟨"//f", 0⟩ (straying ["1", "1", "2"]) ≠
      patient.maxRewinds.toNat := by
  have hattempt : (((patient.make .begin).play (straying ["1", "1"])).handle ⟨"//f", 0⟩
      (.stray "2")).1.toOption.map (fun o => o.attempt) = some 3 := by decide +kernel
  have hrewinds : (patient.make .begin).rewinds ⟨"//f", 0⟩ (straying ["1", "1"]) = 1 := by
    decide +kernel
  obtain ⟨o, ho⟩ := exists_eq_ok (x := (((patient.make .begin).play (straying ["1", "1"])).handle
    ⟨"//f", 0⟩ (.stray "2")).1) (by decide +kernel)
  rw [ho] at hattempt
  have hthree : o.attempt = 3 := Option.some.inj hattempt
  refine ⟨o, ho, ?_, exceeded_iff.2 ⟨by decide +kernel, by decide +kernel⟩, by decide +kernel⟩
  rw [hthree, hrewinds]
  decide

theorem attempt_of_play_patient : ∃ o,
    .begin ∉ straying ["1", "1"] ∧
    ((patient.make .begin).tries ⟨"//f", 0⟩ (straying ["1", "1"])).length + 1 < 2 ^ 32 ∧
    (((patient.make .begin).play (straying ["1", "1"])).handle ⟨"//f", 0⟩ (.stray "2")).1 = .ok o ∧
    o.attempt.toNat = (patient.make .begin).rewinds ⟨"//f", 0⟩ (straying ["1", "1"]) + 1 +
      (patient.make .begin).spoils ⟨"//f", 0⟩ (straying ["1", "1"]) := by
  have hbegin : .begin ∉ straying ["1", "1"] := by
    rw [straying, List.mem_map]
    rintro ⟨digest, -, he⟩
    cases he
  have hround : ((patient.make .begin).tries ⟨"//f", 0⟩ (straying ["1", "1"])).length + 1 < 2 ^ 32 := by
    decide +kernel
  obtain ⟨o, ho⟩ := exists_eq_ok (x := (((patient.make .begin).play (straying ["1", "1"])).handle
    ⟨"//f", 0⟩ (.stray "2")).1) (by decide +kernel)
  obtain ⟨-, -, hfirst⟩ := attempt_of_play patient ⟨"//f", 0⟩ hbegin (.stray "2")
  exact ⟨o, hbegin, hround, ho, (hfirst hround).1 o ho⟩

end Session

end Rewinding
