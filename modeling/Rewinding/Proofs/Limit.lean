import Rewinding.Proofs.Runs
import Rewinding.Proofs.Upstream

/-!
# How often an action is rewound

An action that is rewound again and again makes no progress, so a session refuses to rewind it more
often than is allowed. What is counted are attempts, those that fail included, and the counter has 32
bits: what it shows is the number of attempts up to a multiple of `2 ^ 32`. So an attempt is refused or
not by its number within a round of the counter (`counts_make`).

Up to the end of the first round the limit holds, and an action that was refused once is not rewound
any more. Each further round lets the rewinds begin again (`guard_play`), the first of them as soon as
the counter shows zero (`guard_overrun`).
-/

namespace Rewinding.Session

open Planning

/-- A handling found that its action has been rewound too often. -/
def Exceeded (result : Except Stop Outcome) : Prop :=
  ∃ stop, result = .error stop ∧ stop.fault? = some .limitExceeded

theorem not_exceeded_ok (o : Outcome) : ¬Exceeded (.ok o) := by
  rintro ⟨stop, he, -⟩
  cases he

theorem exceeded_error {stop : Stop} :
    Exceeded (.error stop) ↔ stop.fault? = some .limitExceeded := by
  constructor
  · rintro ⟨stop', he, hf⟩
    obtain rfl := Except.error.inj he
    exact hf
  · exact fun hf => ⟨stop, rfl, hf⟩

/-- What the handling of a loss of `key` ends with, if a move is one. -/
def resultOf (s : Session) (key : ActionKey) : Move → List (Except Stop Outcome)
  | .handle k loss => if k = key then [(s.handle k loss).1] else []
  | _ => []

theorem resultOf_handle (s : Session) (key : ActionKey) (loss : Loss) :
    s.resultOf key (.handle key loss) = [(s.handle key loss).1] := if_pos rfl

theorem resultOf_handle_of_ne (s : Session) {key k : ActionKey} (loss : Loss) (hk : k ≠ key) :
    s.resultOf key (.handle k loss) = [] := if_neg hk

/-- What the handlings of losses of `key` end with in a run. -/
def results (key : ActionKey) (s : Session) : List Move → List (Except Stop Outcome)
  | [] => []
  | move :: moves => s.resultOf key move ++ (s.make move).results key moves

theorem results_cons (key : ActionKey) (s : Session) (move : Move) (moves : List Move) :
    s.results key (move :: moves) = s.resultOf key move ++ (s.make move).results key moves := rfl

theorem results_append (key : ActionKey) (s : Session) (moves moves' : List Move) :
    s.results key (moves ++ moves') = s.results key moves ++ (s.play moves).results key moves' := by
  induction moves generalizing s with
  | nil => rfl
  | cons move moves ih =>
    rw [List.cons_append, results_cons, ih, results_cons, play_cons, List.append_assoc]

@[simp]
theorem maxRewinds_make (s : Session) (move : Move) : (s.make move).maxRewinds = s.maxRewinds := by
  cases move <;> rfl

@[simp]
theorem maxRewinds_play (s : Session) (moves : List Move) :
    (s.play moves).maxRewinds = s.maxRewinds := by
  induction moves generalizing s with
  | nil => rfl
  | cons move moves ih => rw [play_cons, ih, maxRewinds_make]

/-! ### The counter -/

/-- The counter of the attempts of `key` shows `n`, up to a multiple of what it holds. -/
def Shows (s : Session) (key : ActionKey) (n : Nat) : Prop := s.build.attemptsOf key = UInt32.ofNat n

/-- The number of the next attempt within its round. -/
theorem Shows.toNat_add_one {s : Session} {key : ActionKey} {n : Nat} (h : s.Shows key n) :
    (s.build.attemptsOf key + 1).toNat = (n + 1) % 2 ^ 32 := by
  unfold Shows at h
  have hone : (1 : UInt32).toNat = 1 := rfl
  rw [h, UInt32.toNat_add, UInt32.toNat_ofNat', hone]
  omega

theorem Shows.congr {s s' : Session} {key : ActionKey} {n : Nat} (h : s.Shows key n)
    (hs : s'.build.attempts = s.build.attempts) : s'.Shows key n := by
  unfold Shows Build.attemptsOf at h ⊢
  rw [hs]
  exact h

theorem shows_begin (s : Session) (key : ActionKey) : (s.make .begin).Shows key 0 := by
  show (∅ : Std.ExtTreeMap ActionKey UInt32)[key]?.getD (0 : UInt32) = UInt32.ofNat 0
  rw [Std.ExtTreeMap.getElem?_empty]
  rfl

theorem Shows.countAttempt {s s' : Session} {key k : ActionKey} {n : Nat} (h : s.Shows key n)
    (hs : s'.build.attempts = (s.build.countAttempt k).attempts) :
    s'.Shows key (if k = key then n + 1 else n) := by
  have hattempts : s'.build.attemptsOf key = (s.build.countAttempt k).attemptsOf key := by
    unfold Build.attemptsOf
    rw [hs]
  unfold Shows
  rw [hattempts, Build.attemptsOf_countAttempt]
  by_cases he : k = key
  · subst he
    rw [if_pos rfl, if_pos rfl, ← UInt32.toNat_inj, h.toNat_add_one, UInt32.toNat_ofNat']
  · rw [if_neg he, if_neg he]
    exact h

/-- A loss of `key` counts as an attempt, however it ends: the build was not cancelled, and the action
is known. -/
def Admits (s : Session) (key : ActionKey) : Prop :=
  s.build.interrupted = false ∧ key ∈ s.graph.actions

instance (s : Session) (key : ActionKey) : Decidable (s.Admits key) :=
  inferInstanceAs (Decidable (_ ∧ _))

/-- An attempt is counted, and refused for its number alone. -/
theorem handle_of_admits {s : Session} {key : ActionKey} (h : s.Admits key) (loss : Loss) :
    (Exceeded (s.handle key loss).1 ↔ s.build.attemptsOf key + 1 > s.maxRewinds) ∧
      (s.handle key loss).2.build.attempts = (s.build.countAttempt key).attempts := by
  have hend := s.handled_handle key loss
  generalize (s.handle key loss).1 = result at hend ⊢
  generalize (s.handle key loss).2.build = b at hend ⊢
  cases hend with
  | cancelled hi => exact absurd hi (by rw [h.1]; exact nofun)
  | unknown _ hu => exact absurd h.2 hu
  | exceeded _ _ hm => exact ⟨iff_of_true ⟨_, rfl, rfl⟩ hm, rfl⟩
  | unplanned _ _ hm hp =>
    have hnot := fun he => hp.fault?_ne_limitExceeded (exceeded_error.1 he)
    exact ⟨iff_of_false hnot hm, hp.sameButMemory.attempts⟩
  | done _ _ hm hp =>
    rw [Build.evictEach_snd]
    exact ⟨iff_of_false (not_exceeded_ok _) hm, hp.sameButMemory.attempts⟩

/-- What is no attempt is no rewind, is not refused for a number, and changes nothing. -/
theorem handle_of_not_admits {s : Session} {key : ActionKey} (h : ¬s.Admits key) (loss : Loss) :
    (s.handle key loss).1.isOk = false ∧ ¬Exceeded (s.handle key loss).1 ∧
      (s.handle key loss).2.build = s.build := by
  have hend := s.handled_handle key loss
  have hadmits {failed : Action} (hi : s.build.interrupted = false)
      (hf : s.graph.actions[key]? = some failed) : s.Admits key :=
    ⟨hi, Std.ExtTreeMap.mem_iff_isSome_getElem?.2 (hf ▸ rfl)⟩
  generalize (s.handle key loss).1 = result at hend ⊢
  generalize (s.handle key loss).2.build = b at hend ⊢
  cases hend with
  | cancelled _ | unknown _ _ => exact ⟨rfl, fun he => (nomatch exceeded_error.1 he), rfl⟩
  | exceeded hi hf _ | unplanned hi hf _ _ | done hi hf _ _ => exact absurd (hadmits hi hf) h

/-- An attempt is counted, and refused for its number in the round of the counter. -/
theorem Shows.handle {s : Session} {key : ActionKey} {n : Nat} (h : s.Shows key n)
    (hadmits : s.Admits key) (loss : Loss) :
    (s.make (.handle key loss)).Shows key (n + 1) ∧
      (Exceeded (s.handle key loss).1 ↔ s.maxRewinds.toNat < (n + 1) % 2 ^ 32) := by
  obtain ⟨hexceeded, hattempts⟩ := handle_of_admits hadmits loss
  have hshows : (s.make (.handle key loss)).Shows key (if key = key then n + 1 else n) :=
    h.countAttempt hattempts
  rw [if_pos rfl] at hshows
  rw [hexceeded, gt_iff_lt, UInt32.lt_iff_toNat_lt, h.toNat_add_one]
  exact ⟨hshows, Iff.rfl⟩

/-- The attempts of other actions are not counted. -/
theorem Shows.handle_of_ne {s : Session} {key k : ActionKey} {n : Nat} (h : s.Shows key n)
    (hk : k ≠ key) (loss : Loss) : (s.make (.handle k loss)).Shows key n := by
  by_cases hadmits : s.Admits k
  case neg => exact h.congr (congrArg Build.attempts (handle_of_not_admits hadmits loss).2.2)
  case pos =>
    have hshows : (s.make (.handle k loss)).Shows key (if k = key then n + 1 else n) :=
      h.countAttempt (handle_of_admits hadmits loss).2
    rwa [if_neg hk] at hshows

/-- How the results of a move agree with the attempts before and after it: an attempt that succeeds is
one of the first in its round, and one that is refused comes after those. -/
inductive Counts (limit n : Nat) : List (Except Stop Outcome) → Nat → Prop where
  | none : Counts limit n [] n
  | uncounted {result : Except Stop Outcome} : result.isOk = false → ¬Exceeded result →
      Counts limit n [result] n
  | counted {result : Except Stop Outcome} : (result.isOk = true → (n + 1) % 2 ^ 32 ≤ limit) →
      (Exceeded result → limit < (n + 1) % 2 ^ 32) → Counts limit n [result] (n + 1)

/-- **A move counts right**, unless a new build begins with it. -/
theorem counts_make {s : Session} {key : ActionKey} {n : Nat} (h : s.Shows key n) {move : Move}
    (hmove : move ≠ .begin) :
    ∃ n', (s.make move).Shows key n' ∧ Counts s.maxRewinds.toNat n (s.resultOf key move) n' := by
  cases move with
  | begin => exact absurd rfl hmove
  | cancel | complete _ => exact ⟨n, h, .none⟩
  | handle k loss =>
    by_cases hk : k = key
    case neg =>
      rw [resultOf_handle_of_ne _ _ hk]
      exact ⟨n, h.handle_of_ne hk loss, .none⟩
    case pos =>
      subst hk
      rw [resultOf_handle]
      by_cases hadmits : s.Admits k
      case neg =>
        obtain ⟨hok, hex, hbuild⟩ := handle_of_not_admits hadmits loss
        exact ⟨n, h.congr (congrArg Build.attempts hbuild), .uncounted hok hex⟩
      case pos =>
        obtain ⟨hshows, hex⟩ := h.handle hadmits loss
        refine ⟨n + 1, hshows, .counted (fun ho => ?_) hex.1⟩
        obtain ⟨o, ho⟩ := exists_eq_ok ho
        exact Nat.not_lt.1 fun hlt => not_exceeded_ok o (ho ▸ hex.2 hlt)

/-! ### How many rewinds there are -/

/-- How many of the first `n` attempts are not refused: `limit` in the first round of the counter and
one more, whose number is zero, in each further one. -/
def allowance (limit n : Nat) : Nat := n / 2 ^ 32 * (limit + 1) + min (n % 2 ^ 32) limit

theorem allowance_succ {limit : Nat} (hl : limit < 2 ^ 32) (n : Nat) :
    allowance limit (n + 1) = allowance limit n + if (n + 1) % 2 ^ 32 ≤ limit then 1 else 0 := by
  unfold allowance
  by_cases hround : n % 2 ^ 32 + 1 = 2 ^ 32
  -- the attempt begins a round
  case pos =>
    have hdiv : (n + 1) / 2 ^ 32 = n / 2 ^ 32 + 1 := by omega
    have hmod : (n + 1) % 2 ^ 32 = 0 := by omega
    rw [hdiv, hmod, Nat.succ_mul, if_pos (Nat.zero_le _)]
    omega
  case neg =>
    have hdiv : (n + 1) / 2 ^ 32 = n / 2 ^ 32 := by omega
    have hmod : (n + 1) % 2 ^ 32 = n % 2 ^ 32 + 1 := by omega
    rw [hdiv, hmod]
    split <;> omega

theorem allowance_le_succ {limit : Nat} (hl : limit < 2 ^ 32) (n : Nat) :
    allowance limit n ≤ allowance limit (n + 1) := by
  rw [allowance_succ hl]
  exact Nat.le_add_right _ _

variable {s : Session} {key : ActionKey} {n : Nat} {moves : List Move}

/-- A run has no more rewinds than attempts that are not refused. -/
theorem countP_results_le (h : s.Shows key n) (hmoves : .begin ∉ moves) :
    allowance s.maxRewinds.toNat n + (s.results key moves).countP (·.isOk) ≤
      allowance s.maxRewinds.toNat (n + (s.results key moves).length) := by
  have hl := s.maxRewinds.toNat_lt
  induction moves generalizing s n with
  | nil => exact le_rfl
  | cons move moves ih =>
    rw [List.mem_cons, not_or] at hmoves
    obtain ⟨n', hshows, hcounts⟩ := counts_make h (Ne.symm hmoves.1)
    have hrest := ih hshows hmoves.2 (by rwa [maxRewinds_make])
    rw [maxRewinds_make] at hrest
    rw [results_cons]
    generalize s.resultOf key move = now at hcounts
    generalize (s.make move).results key moves = rest at hrest
    cases hcounts with
    | none => exact hrest
    | uncounted hok _ =>
      have hmono := allowance_le_succ hl (n + rest.length)
      rw [List.singleton_append, List.countP_cons_of_neg (by rw [hok]; exact nofun), List.length_cons]
      exact hrest.trans hmono
    | @counted result hok _ =>
      have hlength : n + (rest.length + 1) = n + 1 + rest.length := by omega
      rw [List.singleton_append, List.countP_cons, List.length_cons, hlength]
      rw [allowance_succ hl] at hrest
      by_cases ho : result.isOk = true
      · rw [if_pos (hok ho)] at hrest
        rw [if_pos ho]
        omega
      · rw [if_neg ho]
        omega

/-! ### Refused for good -/

/-- Within the first round, what comes after the last attempt allowed is no rewind. -/
theorem isOk_of_mem_results (h : s.Shows key n) (hmoves : .begin ∉ moves)
    (hn : s.maxRewinds.toNat ≤ n) (hlt : n + (s.results key moves).length < 2 ^ 32)
    {result : Except Stop Outcome} (hr : result ∈ s.results key moves) : result.isOk = false := by
  induction moves generalizing s n with
  | nil => cases hr
  | cons move moves ih =>
    rw [List.mem_cons, not_or] at hmoves
    obtain ⟨n', hshows, hcounts⟩ := counts_make h (Ne.symm hmoves.1)
    rw [results_cons] at hlt hr
    generalize s.resultOf key move = now at hcounts hlt hr
    cases hcounts with
    | none => exact ih hshows hmoves.2 (by rwa [maxRewinds_make]) hlt hr
    | uncounted hok _ =>
      rw [List.singleton_append, List.length_cons] at hlt
      obtain rfl | hr := List.mem_cons.1 hr
      · exact hok
      · exact ih hshows hmoves.2 (by rwa [maxRewinds_make]) (by omega) hr
    | counted hok _ =>
      rw [List.singleton_append, List.length_cons] at hlt
      obtain rfl | hr := List.mem_cons.1 hr
      · rw [← Bool.not_eq_true]
        intro ho
        have hle := hok ho
        rw [Nat.mod_eq_of_lt (by omega)] at hle
        omega
      · exact ih hshows hmoves.2 (by rw [maxRewinds_make]; omega) (by omega) hr

/-- Within the first round, no rewind comes after a refusal. -/
theorem pairwise_results (h : s.Shows key n) (hmoves : .begin ∉ moves)
    (hlt : n + (s.results key moves).length < 2 ^ 32) :
    (s.results key moves).Pairwise fun r r' => Exceeded r → r'.isOk = false := by
  induction moves generalizing s n with
  | nil => exact List.Pairwise.nil
  | cons move moves ih =>
    rw [List.mem_cons, not_or] at hmoves
    obtain ⟨n', hshows, hcounts⟩ := counts_make h (Ne.symm hmoves.1)
    rw [results_cons] at hlt ⊢
    generalize s.resultOf key move = now at hcounts hlt
    cases hcounts with
    | none => exact ih hshows hmoves.2 hlt
    | uncounted _ hex =>
      rw [List.singleton_append, List.length_cons] at hlt
      exact List.Pairwise.cons (fun _ _ he => absurd he hex) (ih hshows hmoves.2 (by omega))
    | counted _ hex =>
      rw [List.singleton_append, List.length_cons] at hlt
      refine List.Pairwise.cons (fun r hr he => ?_) (ih hshows hmoves.2 (by omega))
      have hover := hex he
      rw [Nat.mod_eq_of_lt (by omega)] at hover
      exact isOk_of_mem_results hshows hmoves.2 (by rw [maxRewinds_make]; omega) (by omega) hr

/-! ### The limit -/

/-- **How often an action is rewound in a build.** As long as fewer attempts are made than the counter
holds, an action is rewound at most as often as is allowed, and not any more once it was refused for
that. In a longer build it may be rewound as often again, and once more, in each round of the counter. -/
theorem guard_play (s : Session) (key : ActionKey) (moves : List Move) (hmoves : .begin ∉ moves) :
    (((s.make .begin).results key moves).countP (·.isOk) ≤
      allowance s.maxRewinds.toNat ((s.make .begin).results key moves).length) ∧
    (((s.make .begin).results key moves).length < 2 ^ 32 →
      ((s.make .begin).results key moves).countP (·.isOk) ≤ s.maxRewinds.toNat ∧
      ((s.make .begin).results key moves).Pairwise fun r r' => Exceeded r → r'.isOk = false) := by
  have hshows := s.shows_begin key
  have hcount := countP_results_le hshows hmoves
  rw [maxRewinds_make, Nat.zero_add] at hcount
  have hbound := (Nat.le_add_left _ _).trans hcount
  refine ⟨hbound, fun hlt => ⟨hbound.trans ?_, pairwise_results hshows hmoves (by omega)⟩⟩
  unfold allowance
  rw [Nat.div_eq_of_lt hlt, Nat.mod_eq_of_lt hlt]
  omega

end Session

/-- One action, which may be rewound once in a build. -/
def Description.single : Description where
  settings := { maxRewinds := 1 }
  actions := Std.ExtTreeMap.ofList [("//f#0", ({ outputs := ["out/f"] } : ActionSection))]

/-- The loss of nothing, which every rewind repairs. -/
def Loss.nothing : Loss where
  message := ""

namespace Session

def limited : Session :=
  blank Description.single.accepted .log Description.single.accepted.settings.maxRewinds

/-- Losses of nothing, again and again. -/
def losing (key : ActionKey) (n : Nat) : List Move := List.replicate n (.handle key .nothing)

theorem guard_play_limited : .begin ∉ losing ⟨"//f", 0⟩ 3 ∧
    ((limited.make .begin).results ⟨"//f", 0⟩ (losing ⟨"//f", 0⟩ 3)).length < 2 ^ 32 ∧
    ((limited.make .begin).results ⟨"//f", 0⟩ (losing ⟨"//f", 0⟩ 3)).countP (·.isOk) ≤
      limited.maxRewinds.toNat := by
  have hbegin : .begin ∉ losing ⟨"//f", 0⟩ 3 := by
    intro hmem
    cases List.eq_of_mem_replicate hmem
  have hlt : ((limited.make .begin).results ⟨"//f", 0⟩ (losing ⟨"//f", 0⟩ 3)).length < 2 ^ 32 := by
    decide +kernel
  exact ⟨hbegin, hlt, ((guard_play limited _ _ hbegin).2 hlt).1⟩

/-- The first attempt is a rewind, and the others are refused. -/
example : ((limited.make .begin).results ⟨"//f", 0⟩ (losing ⟨"//f", 0⟩ 3)).map (·.isOk) =
    [true, false, false] := by decide +kernel

/-! ### Beyond the first round -/

/-- A loss of nothing is rewound, or refused for the number of the attempt. -/
theorem handle_nothing (s : Session) {key : ActionKey} (hi : s.build.interrupted = false)
    (hk : key ∈ s.graph.actions) :
    (if s.build.attemptsOf key + 1 > s.maxRewinds then Exceeded (s.handle key .nothing).1
      else (s.handle key .nothing).1.isOk = true) ∧
    (s.handle key .nothing).2.build.attempts = (s.build.countAttempt key).attempts ∧
    (s.handle key .nothing).2.build.interrupted = false := by
  have hend := s.handled_handle key .nothing
  generalize (s.handle key .nothing).1 = result at hend
  generalize (s.handle key .nothing).2.build = b at hend
  cases hend with
  | cancelled hc =>
    rw [hi] at hc
    cases hc
  | unknown _ hu => exact absurd hk hu
  | exceeded _ _ hm =>
    rw [if_pos hm]
    exact ⟨⟨_, rfl, rfl⟩, rfl, hi⟩
  | done _ _ hm hp =>
    have hsame := hp.sameButMemory
    rw [if_neg hm, Build.evictEach_snd]
    exact ⟨rfl, hsame.attempts, hsame.interrupted.trans hi⟩
  | unplanned _ _ hm hp =>
    -- nothing can be wrong with a loss of nothing
    exfalso
    cases hp with
    | repeated he _ _ => exact absurd (congrArg List.length he) (by simp [Loss.nothing])
    | defect _ hr _ => cases hr
    | sourceLost _ hr hs =>
      cases hr
      cases hs
    | stopped _ _ hr _ hx =>
      cases hr
      cases hx

theorem play_losing {s : Session} {key : ActionKey} {n : Nat} (h : s.Shows key n)
    (hi : s.build.interrupted = false) (hk : key ∈ s.graph.actions) (m : Nat) :
    (s.play (losing key m)).Shows key (n + m) ∧ (s.play (losing key m)).build.interrupted = false := by
  induction m generalizing s n with
  | zero => exact ⟨h, hi⟩
  | succ m ih =>
    obtain ⟨-, ha, hi'⟩ := s.handle_nothing hi hk
    have hshows := h.countAttempt ha
    rw [if_pos rfl] at hshows
    have hlength : n + (m + 1) = n + 1 + m := by omega
    rw [hlength]
    exact ih (s := (s.handle key .nothing).2) hshows hi' hk

theorem losing_add (key : ActionKey) (m n : Nat) :
    losing key (m + n) = losing key m ++ losing key n := List.replicate_add ..

/-- What one more loss of nothing ends with, by the number of the attempt in its round. -/
theorem results_losing_one {s : Session} {key : ActionKey} {n : Nat} (h : s.Shows key n)
    (hi : s.build.interrupted = false) (hk : key ∈ s.graph.actions) :
    ∃ result, s.results key (losing key 1) = [result] ∧
      ((n + 1) % 2 ^ 32 ≤ s.maxRewinds.toNat → result.isOk = true) ∧
      (s.maxRewinds.toNat < (n + 1) % 2 ^ 32 → Exceeded result) := by
  have hresults : s.results key (losing key 1) = [(s.handle key .nothing).1] := by
    show s.resultOf key (.handle key .nothing) ++ [] = _
    rw [resultOf_handle, List.append_nil]
  have hnumber := h.toNat_add_one
  obtain ⟨hresult, -, -⟩ := s.handle_nothing hi hk
  refine ⟨_, hresults, fun hle => ?_, fun hlt => ?_⟩
  · rw [← hnumber, ← UInt32.le_iff_toNat_le, ← UInt32.not_lt] at hle
    rwa [if_neg hle] at hresult
  · rw [← hnumber, ← UInt32.lt_iff_toNat_lt] at hlt
    rwa [if_pos hlt] at hresult

/-- **The counter starts again.** The second attempt to rewind the action is refused, and so are all
that follow it in the round; and then it is rewound once more. -/
theorem guard_overrun :
    .begin ∉ losing ⟨"//f", 0⟩ (2 ^ 32) ∧
    limited.maxRewinds.toNat < ((limited.make .begin).results ⟨"//f", 0⟩
      (losing ⟨"//f", 0⟩ (2 ^ 32))).countP (·.isOk) ∧
    ¬((limited.make .begin).results ⟨"//f", 0⟩ (losing ⟨"//f", 0⟩ (2 ^ 32))).Pairwise
      fun r r' => Exceeded r → r'.isOk = false := by
  have hmax : limited.maxRewinds.toNat = 1 := by decide +kernel
  have hk : (⟨"//f", 0⟩ : ActionKey) ∈ limited.graph.actions := by decide +kernel
  have hshows := limited.shows_begin ⟨"//f", 0⟩
  obtain ⟨m, hm⟩ : ∃ m, 2 ^ 32 = 1 + (1 + (m + 1)) := ⟨2 ^ 32 - 3, rfl⟩
  have hbegin : .begin ∉ losing ⟨"//f", 0⟩ (2 ^ 32) := by
    intro hmem
    cases List.eq_of_mem_replicate hmem
  refine ⟨hbegin, ?_⟩
  rw [hmax, hm]
  rw [← maxRewinds_make limited .begin] at hmax
  rw [← graph_make limited .begin] at hk
  have hi : (limited.make .begin).build.interrupted = false := rfl
  generalize limited.make .begin = s at *
  generalize (⟨"//f", 0⟩ : ActionKey) = key at *
  obtain ⟨hshows', hi'⟩ := play_losing hshows hi hk 1
  obtain ⟨hshows'', hi''⟩ := play_losing hshows' hi' (by rwa [graph_play]) 1
  obtain ⟨hlast, hilast⟩ := play_losing hshows'' hi'' (by rwa [graph_play, graph_play]) m
  obtain ⟨first, hfirst, hok, -⟩ := results_losing_one hshows hi hk
  obtain ⟨second, hsecond, -, hexceeded⟩ := results_losing_one hshows' hi' (by rwa [graph_play])
  obtain ⟨last, hlast, hok', -⟩ :=
    results_losing_one hlast hilast (by rwa [graph_play, graph_play, graph_play])
  rw [maxRewinds_play, hmax] at hexceeded
  rw [maxRewinds_play, maxRewinds_play, maxRewinds_play, hmax] at hok'
  rw [hmax] at hok
  rw [losing_add, losing_add, losing_add, results_append, results_append, results_append, hfirst,
    hsecond, hlast]
  generalize results key _ (losing key m) = between
  have hrewound := hok (by omega)
  have hrewound' := hok' (by omega)
  constructor
  · simp only [List.countP_append, List.countP_singleton, hrewound, hrewound', if_true]
    omega
  · intro hpairwise
    rw [List.singleton_append, List.pairwise_cons, List.singleton_append, List.pairwise_cons]
      at hpairwise
    obtain ⟨-, hrefused, -⟩ := hpairwise
    have hno := hrefused last (by simp) (hexceeded (by omega))
    rw [hrewound'] at hno
    cases hno

end Session

end Rewinding
