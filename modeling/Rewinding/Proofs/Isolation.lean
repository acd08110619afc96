import Rewinding.Proofs.Effect
import Rewinding.Proofs.Reports
import Rewinding.Proofs.Watch

/-!
# Builds do not mix

A build that was announced begins when nothing is in flight any more. So a computation runs in the
build in which its loss was received, from its first step to its last, and the losses and attempts that
it reads and writes are those of that build (`builds_isolated`).

What every incident keeps comes in three parts: `Filed` accounts for the losses received, `Timed` for
the builds of computations and of their steps, and `Ledger` for what a build remembers.
-/

namespace Rewinding

open Service

variable {known : List Action} {α β : Type}

def Event.isStart : Event → Bool
  | .buildStarted => true
  | _ => false

/-! ### Lists that grow and shrink -/

theorem getElem?_append_of_some {l : List α} {n : Nat} {a : α} (h : l[n]? = some a) (more : List α) :
    (l ++ more)[n]? = some a := by
  rw [List.getElem?_append_left (List.getElem?_eq_some_iff.1 h).1]
  exact h

theorem getElem?_concat {l : List α} {a b : α} {n : Nat} (h : (l ++ [a])[n]? = some b) :
    l[n]? = some b ∨ n = l.length ∧ b = a := by
  rw [List.getElem?_append] at h
  split at h
  case isTrue => exact Or.inl h
  case isFalse hn =>
    obtain ⟨hlt, rfl⟩ := List.getElem?_eq_some_iff.1 h
    have hlast : n - l.length = 0 := by
      rw [List.length_singleton] at hlt
      omega
    refine Or.inr ⟨by omega, ?_⟩
    simp only [hlast, List.getElem_cons_zero]

theorem getElem?_concat_both {l : List α} {l' : List β} {a b : α} {a' b' : β} {n : Nat}
    (hlength : l.length = l'.length) (h : (l ++ [a])[n]? = some b) (h' : (l' ++ [a'])[n]? = some b') :
    l[n]? = some b ∧ l'[n]? = some b' ∨ n = l.length ∧ b = a ∧ b' = a' := by
  obtain hb | ⟨hn, hb⟩ := getElem?_concat h <;> obtain hb' | ⟨hn', hb'⟩ := getElem?_concat h'
  · exact Or.inl ⟨hb, hb'⟩
  · exact absurd (hn'.trans hlength.symm) (List.getElem?_eq_some_iff.1 hb).1.ne
  · exact absurd (hn.trans hlength) (List.getElem?_eq_some_iff.1 hb').1.ne
  · exact Or.inr ⟨hn, hb, hb'⟩

theorem getElem?_set_of_some {l : List α} {a b c : α} {i j : Nat} (hi : l[i]? = some a)
    (h : (l.set i b)[j]? = some c) : i = j ∧ c = b ∨ l[j]? = some c := by
  rw [List.getElem?_set] at h
  by_cases he : i = j
  · rw [if_pos he, if_pos (List.getElem?_eq_some_iff.1 hi).1] at h
    exact Or.inl ⟨he, (Option.some.inj h).symm⟩
  · rw [if_neg he] at h
    exact Or.inr h

/-- What stands at one place of two lists stood at one place before something was left out of both. -/
theorem exists_getElem?_of_eraseIdx {l : List α} {l' : List β} {a : α} {b : β} {i j : Nat}
    (ha : (l.eraseIdx i)[j]? = some a) (hb : (l'.eraseIdx i)[j]? = some b) :
    ∃ k : Nat, l[k]? = some a ∧ l'[k]? = some b := by
  rw [List.getElem?_eraseIdx] at ha hb
  split at ha
  case isTrue h =>
    rw [if_pos h] at hb
    exact ⟨j, ha, hb⟩
  case isFalse h =>
    rw [if_neg h] at hb
    exact ⟨j + 1, ha, hb⟩

theorem mem_eraseIdx_or_eq {l : List α} {a b : α} {i : Nat} (ha : a ∈ l) (hi : l[i]? = some b) :
    a ∈ l.eraseIdx i ∨ a = b := by
  obtain ⟨hlt, rfl⟩ := List.getElem?_eq_some_iff.1 hi
  have hmem := (List.getElem_cons_eraseIdx_perm hlt).mem_iff.2 ha
  exact (List.mem_cons.1 hmem).symm

/-! ### What deeds leave in a build -/

def Step.recorded? : Step known → Option LossRecord
  | .record key digest => some ⟨key, digest⟩
  | _ => none

def Step.attempted? : Step known → Option ActionKey
  | .attempt key => some key
  | _ => none

/-- After some deeds, a loss is remembered in a build if one of its own deeds recorded it. The build
before the first one that is announced also remembers what it started with. -/
def Remembered (start : Build) (deeds : List (Deed known)) (build : Nat) (l : LossRecord) : Prop :=
  build = 0 ∧ l ∈ start.history ∨ ∃ d ∈ deeds, d.build = build ∧ d.step.recorded? = some l

/-- How many attempts for an action are counted in a build after some deeds, modulo `2 ^ 32`. -/
def attemptsIn (start : Build) (deeds : List (Deed known)) (build : Nat) (key : ActionKey) : UInt32 :=
  (if build = 0 then start.attemptsOf key else 0) +
    UInt32.ofNat (deeds.countP fun d => d.build = build ∧ d.step.attempted? = some key)

section Deeds

variable {start : Build} {deeds : List (Deed known)} {d : Deed known} {build : Nat}

theorem remembered_concat {l : LossRecord} :
    Remembered start (deeds ++ [d]) build l ↔
      Remembered start deeds build l ∨ d.build = build ∧ d.step.recorded? = some l := by
  unfold Remembered
  simp only [List.mem_append, List.mem_singleton, or_and_right, exists_or, exists_eq_left, or_assoc]

theorem attemptsIn_concat {key : ActionKey} :
    attemptsIn start (deeds ++ [d]) build key =
      attemptsIn start deeds build key +
        if d.build = build ∧ d.step.attempted? = some key then 1 else 0 := by
  unfold attemptsIn
  rw [List.countP_append, List.countP_singleton, UInt32.ofNat_add, UInt32.add_assoc]
  congr 2
  simp only [decide_eq_true_eq]
  split <;> rfl

/-- A build in which nothing was done remembers nothing. -/
theorem not_remembered (hb : build ≠ 0) (hd : ∀ d ∈ deeds, d.build ≠ build) (l : LossRecord) :
    ¬Remembered start deeds build l := by
  rintro (⟨h, -⟩ | ⟨d, hmem, h, -⟩)
  · exact hb h
  · exact hd d hmem h

theorem attemptsIn_eq_zero (hb : build ≠ 0) (hd : ∀ d ∈ deeds, d.build ≠ build) (key : ActionKey) :
    attemptsIn start deeds build key = 0 := by
  unfold attemptsIn
  rw [if_neg hb, List.countP_eq_zero.2 fun d hmem => by simp [hd d hmem]]
  rfl

end Deeds

namespace Build

variable {g : Graph} {reporter : Reporter}

/-- A step remembers the loss that it records. -/
theorem mem_history_answer (step : Step g.roster) (b : Build) {l : LossRecord} :
    l ∈ ((world g reporter).answer step b).2.history ↔
      l ∈ b.history ∨ step.recorded? = some l := by
  cases step with
  | record key digest =>
    show l ∈ b.history.insert ⟨key, digest⟩ ↔ l ∈ b.history ∨ some ⟨key, digest⟩ = some l
    rw [Std.ExtTreeSet.mem_insert, Std.LawfulEqCmp.compare_eq_iff_eq, Option.some_inj, or_comm]
  | report message =>
    show l ∈ (b.take reporter message).history ↔ l ∈ b.history ∨ none = some l
    obtain ⟨reports, htake⟩ := b.exists_take_eq reporter message
    rw [htake]
    exact (or_iff_left nofun).symm
  | interrupted | discover _ | lookup _ | attempt _ | invalidate _ | evict _ =>
    exact (or_iff_left nofun).symm

/-- A step counts the attempt that it makes. -/
theorem attemptsOf_answer (step : Step g.roster) (b : Build) (key : ActionKey) :
    ((world g reporter).answer step b).2.attemptsOf key =
      b.attemptsOf key + if step.attempted? = some key then 1 else 0 := by
  cases step with
  | attempt k =>
    show (b.countAttempt k).attemptsOf key = _ + if some k = some key then 1 else 0
    rw [attemptsOf_countAttempt]
    split
    case isTrue he => rw [he, if_pos rfl]
    case isFalse he => rw [if_neg fun h => he (Option.some_inj.1 h), UInt32.add_zero]
  | report message =>
    obtain ⟨reports, htake⟩ := b.exists_take_eq reporter message
    show (b.take reporter message).attemptsOf key = _
    rw [htake]
    exact (UInt32.add_zero _).symm
  | interrupted | discover _ | lookup _ | record _ _ | invalidate _ | evict _ =>
    exact (UInt32.add_zero _).symm

end Build

/-! ### The losses received -/

theorem Service.not_crashed_of_isAlive {g : Graph} {v : Service g} (h : v.phase.isAlive = true) :
    ¬v.Crashed := by
  rintro ⟨message, hm⟩
  rw [hm] at h
  cases h

namespace Watch

variable {g : Graph} {w w' : Watch g} {incident : Incident}

/-- Each computation in flight will report on the loss that is written down for it, and each loss
received is in flight or was reported. -/
structure Filed (w : Watch g) : Prop where
  flight {i n : Nat} {job : Procedure g.roster (Except String Report)} : w.flights[i]? = some n →
    w.service.jobs[i]? = some job →
    ∃ key loss, w.received[n]? = some (.lost key loss) ∧ ReportsOn key job
  settled {n : Nat} {key : ActionKey} {loss : Loss} : ¬w.service.Crashed →
    w.received[n]? = some (.lost key loss) →
    n ∈ w.flights ∨ ∃ result, (n, ⟨key, result⟩) ∈ w.reported

/-- What is in flight and what was received and reported is all that is accounted for. -/
theorem Filed.congr (hw : w.Filed) (hflights : w'.flights = w.flights)
    (hjobs : w'.service.jobs = w.service.jobs) (hreceived : w'.received = w.received)
    (hreported : w'.reported = w.reported) (hcrashed : w.service.Crashed → w'.service.Crashed) :
    w'.Filed where
  flight := by
    rw [hflights, hjobs, hreceived]
    exact hw.flight
  settled hc := by
    rw [hflights, hreceived, hreported]
    exact hw.settled fun h => hc (hcrashed h)

/-- A loss that is received is in flight. -/
theorem Filed.receive_lost (hw : w.Filed) (ha : w.Aligned) (hc : ¬w.service.Crashed) {v : Service g}
    {key : ActionKey} {loss : Loss} (hjobs : v.jobs = w.service.jobs ++ [w.service.job key loss]) :
    { w with
      service := v
      received := w.received ++ [Event.lost key loss]
      flights := w.flights ++ [w.received.length] }.Filed where
  flight {i n job} hn hj := by
    rw [hjobs] at hj
    obtain ⟨hn, hj⟩ | ⟨-, rfl, rfl⟩ := getElem?_concat_both ha.flights hn hj
    · obtain ⟨key, loss, hreceived, hjob⟩ := hw.flight hn hj
      exact ⟨key, loss, getElem?_append_of_some hreceived _, hjob⟩
    · exact ⟨key, loss, List.getElem?_concat_length, reportsOn_job w.service key loss⟩
  settled {n key loss} _ hreceived := by
    obtain hreceived | ⟨rfl, -⟩ := getElem?_concat hreceived
    · exact (hw.settled hc hreceived).imp_left (List.mem_append_left _)
    · exact Or.inl (List.mem_append_right _ (List.mem_singleton_self _))

/-- Another event leaves the accounts as they are. -/
theorem Filed.receive_other (hw : w.Filed) (hc : ¬w.service.Crashed) {v : Service g}
    {event : Event} (hevent : event.lost? = none) (hjobs : v.jobs = w.service.jobs) :
    { w with service := v, received := w.received ++ [event] }.Filed where
  flight hn hj := by
    rw [hjobs] at hj
    obtain ⟨key, loss, hreceived, hjob⟩ := hw.flight hn hj
    exact ⟨key, loss, getElem?_append_of_some hreceived _, hjob⟩
  settled {n key loss} _ hreceived := by
    obtain hreceived | ⟨-, rfl⟩ := getElem?_concat hreceived
    · exact hw.settled hc hreceived
    · cases hevent

/-- A step of a computation leaves it with the same loss to report on. -/
theorem Filed.work (hw : w.Filed) {i : Nat} {step : Step g.roster}
    {next : step.Answer → Procedure g.roster (Except String Report)}
    (hi : w.service.jobs[i]? = some (.ask step next)) {answer : step.Answer} {b : Build}
    {deeds : List (Deed g.roster)} :
    { w with
      service := { w.service with build := b, jobs := w.service.jobs.set i (next answer) }
      deeds }.Filed where
  flight {j m job} hm hj := by
    obtain ⟨rfl, rfl⟩ | hj := getElem?_set_of_some hi hj
    · obtain ⟨key, loss, hreceived, hends⟩ := hw.flight hm hi
      exact ⟨key, loss, hreceived, hends answer⟩
    · exact hw.flight hm hj
  settled := hw.settled

/-- A report leaves no other loss without one. -/
theorem Filed.report (hw : w.Filed) {i n : Nat} {report : Report} {v : Service g}
    (hi : w.service.jobs[i]? = some (.done (.ok report))) (hn : w.flights[i]? = some n)
    (hc : ¬w.service.Crashed) (hjobs : v.jobs = w.service.jobs.eraseIdx i) :
    { w with
      service := v
      flights := w.flights.eraseIdx i
      reported := w.reported ++ [(n, report)] }.Filed where
  flight hm hj := by
    rw [hjobs] at hj
    obtain ⟨k, hm, hj⟩ := exists_getElem?_of_eraseIdx hm hj
    exact hw.flight hm hj
  settled {m key loss} _ hreceived := by
    obtain hflight | ⟨result, hreported⟩ := hw.settled hc hreceived
    case inl =>
      obtain hflight | rfl := mem_eraseIdx_or_eq hflight hn
      · exact Or.inl hflight
      · -- the computation that has ended is that of the loss
        obtain ⟨key', loss', hreceived', hends⟩ := hw.flight hn hi
        have hsame : Event.lost key loss = .lost key' loss' :=
          Option.some.inj (hreceived.symm.trans hreceived')
        have hkey : report.action = key := (hends report rfl).trans (Event.lost.inj hsame).1.symm
        refine Or.inr ⟨report.result, List.mem_append_right _ ?_⟩
        rw [List.mem_singleton, ← hkey]
    case inr => exact Or.inr ⟨result, List.mem_append_left _ hreported⟩

theorem Met.filed (h : w.Met incident w') (ha : w.Aligned) (hw : w.Filed) : w'.Filed := by
  cases h with
  | @receive event events hphase hevents =>
    have hc : ¬w.service.Crashed := not_crashed_of_isAlive (by rw [hphase]; rfl)
    cases event with
    | lost key loss =>
      have hjobs : ({ w.service with events }.receive (.lost key loss)).jobs =
        w.service.jobs ++ [w.service.job key loss] := rfl
      exact hw.receive_lost ha hc hjobs
    | buildStarted | cancelled | shutdown =>
      rw [show Event.lost? _ = none from rfl, Option.toList_none, List.map_nil, List.append_nil]
      exact hw.receive_other hc rfl rfl
  | work hi _ => exact hw.work hi
  | report hi hn halive => exact hw.report hi hn (not_crashed_of_isAlive halive) rfl
  | fail halive hi =>
    refine ⟨fun {j m job} hm hj => ?_, fun hc => absurd ⟨_, rfl⟩ hc⟩
    obtain ⟨k, hm, hj⟩ := exists_getElem?_of_eraseIdx hm hj
    exact hw.flight hm hj
  | begin hphase _ | finish hphase _ | hungUp hphase _ _ =>
    refine hw.congr rfl rfl rfl rfl fun hc => absurd hc (not_crashed_of_isAlive ?_)
    rw [hphase]
    rfl
  | sent _ _ | closed | deafened => exact hw.congr rfl rfl rfl rfl id

/-! ### The builds of losses and deeds -/

/-- The build to which the event at place `n` belongs: how many builds were announced before it. -/
def buildOf (w : Watch g) (n : Nat) : Nat := (w.received.take n).countP Event.isStart

/-- The build that runs is the last one announced. Computations in flight belong to it, and steps
belong to the builds in which they were taken. -/
structure Timed (w : Watch g) : Prop where
  listening : w.service.phase = .listening → w.received.countP Event.isStart = w.begun
  starting : w.service.phase = .starting → w.received.countP Event.isStart = w.begun + 1
  flight {n : Nat} : n ∈ w.flights → n < w.received.length ∧ w.buildOf n = w.begun
  deed {d : Deed g.roster} : d ∈ w.deeds → d.loss < w.received.length ∧ w.buildOf d.loss = d.build

theorem buildOf_of_received {event : Event} (hreceived : w'.received = w.received ++ [event]) {n : Nat}
    (hn : n ≤ w.received.length) : w'.buildOf n = w.buildOf n := by
  unfold buildOf
  rw [hreceived, List.take_append_of_le_length hn]

/-- The flights of a service with nothing in flight. -/
theorem Aligned.flights_eq_nil (ha : w.Aligned) (hjobs : w.service.jobs = []) : w.flights = [] := by
  refine List.eq_nil_of_length_eq_zero ?_
  rw [ha.flights, hjobs]
  rfl

/-- Computations that are in flight when an event is received, and steps taken before, stay in their
builds; a loss that is received belongs to the build that runs. -/
theorem Timed.receive (hw : w.Timed) (hphase : w.service.phase = .listening) (event : Event)
    {events : List Event} :
    { w with
      service := { w.service with events }.receive event
      received := w.received ++ [event]
      flights := w.flights ++ event.lost?.toList.map fun _ => w.received.length }.Timed where
  listening hlistening := by
    have hcount := hw.listening hphase
    show (w.received ++ [event]).countP Event.isStart = w.begun
    rw [List.countP_append, hcount, List.countP_singleton]
    cases event with
    | lost key loss | cancelled => rfl
    | buildStarted | shutdown => cases hlistening
  starting hstarting := by
    have hcount := hw.listening hphase
    show (w.received ++ [event]).countP Event.isStart = w.begun + 1
    rw [List.countP_append, hcount, List.countP_singleton]
    cases event with
    | buildStarted => rfl
    | lost key loss | cancelled => exact absurd (hphase.symm.trans hstarting) nofun
    | shutdown => cases hstarting
  flight {n} hn := by
    have hlength : (w.received ++ [event]).length = w.received.length + 1 := List.length_append
    obtain hn | hn := List.mem_append.1 hn
    case inl =>
      obtain ⟨hlt, hbuild⟩ := hw.flight hn
      exact ⟨hlength ▸ Nat.lt_succ_of_lt hlt, (buildOf_of_received rfl hlt.le).trans hbuild⟩
    case inr =>
      obtain ⟨_, -, rfl⟩ := List.mem_map.1 hn
      refine ⟨hlength ▸ Nat.lt_succ_self _, (buildOf_of_received rfl (Nat.le_refl _)).trans ?_⟩
      unfold buildOf
      rw [List.take_length]
      exact hw.listening hphase
  deed hd := by
    obtain ⟨hlt, hbuild⟩ := hw.deed hd
    refine ⟨?_, (buildOf_of_received rfl hlt.le).trans hbuild⟩
    show _ < (w.received ++ [event]).length
    rw [List.length_append]
    exact Nat.lt_succ_of_lt hlt

theorem Met.timed (h : w.Met incident w') (ha : w.Aligned) (hw : w.Timed) : w'.Timed := by
  cases h with
  | receive hphase _ => exact hw.receive hphase _
  | work _ hn =>
    refine ⟨hw.listening, hw.starting, hw.flight, fun hd => ?_⟩
    obtain hd | hd := List.mem_append.1 hd
    · exact hw.deed hd
    · rw [List.mem_singleton.1 hd]
      exact hw.flight (List.mem_of_getElem? hn)
  | report _ _ _ =>
    exact ⟨hw.listening, hw.starting, fun hn => hw.flight (List.mem_of_mem_eraseIdx hn), hw.deed⟩
  | fail _ _ => exact ⟨nofun, nofun, fun hn => hw.flight (List.mem_of_mem_eraseIdx hn), hw.deed⟩
  | begin hphase hjobs =>
    refine ⟨fun _ => hw.starting hphase, nofun, fun hn => ?_, hw.deed⟩
    -- nothing is in flight that could belong to the build before
    rw [ha.flights_eq_nil hjobs] at hn
    cases hn
  | finish _ _ | hungUp _ _ _ => exact ⟨nofun, nofun, hw.flight, hw.deed⟩
  | sent _ _ | closed | deafened => exact ⟨hw.listening, hw.starting, hw.flight, hw.deed⟩

/-! ### What a build remembers -/

/-- The build that runs remembers what its own deeds left in it, and deeds were answered from what
earlier ones of the same build left. -/
structure Ledger (start : Build) (w : Watch g) : Prop where
  past {d : Deed g.roster} : d ∈ w.deeds → d.build ≤ w.begun
  history {l : LossRecord} : l ∈ w.service.build.history ↔ Remembered start w.deeds w.begun l
  attempts (key : ActionKey) : w.service.build.attemptsOf key = attemptsIn start w.deeds w.begun key
  isNew {i n build : Nat} {key : ActionKey} {digest : String} {isNew : Bool} :
    w.deeds[i]? = some ⟨n, build, .record key digest, isNew⟩ →
    (isNew = false ↔ Remembered start (w.deeds.take i) build ⟨key, digest⟩)
  number {i n build : Nat} {key : ActionKey} {number : UInt32} :
    w.deeds[i]? = some ⟨n, build, .attempt key, number⟩ →
    number = attemptsIn start (w.deeds.take i) build key + 1

/-- A step is written down in the build that runs. -/
theorem Ledger.work {start : Build} (hw : w.Ledger start) (n : Nat) (step : Step g.roster)
    {reporter : Reporter} {jobs : List (Procedure g.roster (Except String Report))} :
    { w with
      service :=
        { w.service with build := ((Build.world g reporter).answer step w.service.build).2, jobs }
      deeds := w.deeds ++
        [Deed.mk n w.begun step ((Build.world g reporter).answer step w.service.build).1] }.Ledger
      start where
  past hd := by
    obtain hd | hd := List.mem_append.1 hd
    · exact hw.past hd
    · rw [List.mem_singleton.1 hd]
  history {l} := by
    rw [Build.mem_history_answer, remembered_concat, hw.history]
    simp only [true_and]
  attempts key := by
    rw [Build.attemptsOf_answer, attemptsIn_concat, hw.attempts key]
    simp only [true_and]
  isNew {i m build key digest isNew} hi := by
    obtain hi | ⟨rfl, hd⟩ := getElem?_concat hi
    case inl =>
      rw [List.take_append_of_le_length (List.getElem?_eq_some_iff.1 hi).1.le]
      exact hw.isNew hi
    case inr =>
      rw [List.take_left]
      cases hd
      rw [← hw.history]
      exact decide_eq_false_iff_not.trans not_not
  number {i m build key number} hi := by
    obtain hi | ⟨rfl, hd⟩ := getElem?_concat hi
    case inl =>
      rw [List.take_append_of_le_length (List.getElem?_eq_some_iff.1 hi).1.le]
      exact hw.number hi
    case inr =>
      rw [List.take_left]
      cases hd
      rw [← hw.attempts]
      rfl

/-- A new build remembers nothing, and nothing was done in it. -/
theorem Ledger.begin {start : Build} (hw : w.Ledger start) :
    { w with service := w.service.begin, begun := w.begun + 1 }.Ledger start where
  past hd := Nat.le_succ_of_le (hw.past hd)
  history {l} := by
    refine iff_of_false Std.ExtTreeSet.not_mem_empty (not_remembered (Nat.succ_ne_zero _) ?_ l)
    exact fun d hd => Nat.ne_of_lt (Nat.lt_succ_of_le (hw.past hd))
  attempts key := by
    have hpast : ∀ d ∈ w.deeds, d.build ≠ w.begun + 1 :=
      fun d hd => Nat.ne_of_lt (Nat.lt_succ_of_le (hw.past hd))
    rw [attemptsIn_eq_zero (Nat.succ_ne_zero _) hpast]
    show (∅ : Std.ExtTreeMap ActionKey UInt32)[key]?.getD (0 : UInt32) = 0
    rw [Std.ExtTreeMap.getElem?_empty]
    rfl
  isNew := hw.isNew
  number := hw.number

/-- An event may cancel a build, but leaves alone what it remembers. -/
theorem Ledger.receive {start : Build} (hw : w.Ledger start) (event : Event) {events : List Event}
    {received : List Event} {flights : List Nat} :
    { w with service := { w.service with events }.receive event, received, flights }.Ledger start := by
  cases event <;> exact ⟨hw.past, hw.history, hw.attempts, hw.isNew, hw.number⟩

theorem Met.ledger {start : Build} (h : w.Met incident w') (hw : w.Ledger start) :
    w'.Ledger start := by
  cases h with
  | @work i n step next _ _ => exact hw.work n step
  | begin _ _ => exact hw.begin
  | receive _ _ => exact hw.receive _
  | report _ _ _ | fail _ _ | finish _ _ | hungUp _ _ _ | sent _ _ | closed | deafened =>
    exact ⟨hw.past, hw.history, hw.attempts, hw.isNew, hw.number⟩

end Watch

namespace Session

theorem filed_watch (s : Session) (events : List Event) : (s.watch events).Filed := ⟨nofun, nofun⟩

theorem timed_watch (s : Session) (events : List Event) : (s.watch events).Timed :=
  ⟨fun _ => rfl, nofun, nofun, nofun⟩

theorem ledger_watch (s : Session) (events : List Event) : (s.watch events).Ledger s.build where
  past := nofun
  history {l} := by
    have hnone : ¬∃ d ∈ (s.watch events).deeds, d.build = 0 ∧ d.step.recorded? = some l := by
      rintro ⟨d, hd, -⟩
      cases hd
    exact ⟨fun hl => Or.inl ⟨rfl, hl⟩, fun h => (h.resolve_right hnone).2⟩
  attempts key := (UInt32.add_zero _).symm
  isNew := nofun
  number := nofun

/-- **Builds are isolated.** Whenever a build can begin, nothing is in flight, and each loss received
has been reported. A computation in flight belongs to the build that runs, and each step that was taken
to the build in which its loss was received. The losses and attempts that the build remembers, and that
any step was answered from, were written by earlier steps of the same build. -/
theorem builds_isolated (s : Session) (events : List Event) {course : List Incident}
    {w : Watch s.graph} (hw : (s.watch events).live? course = some w) :
    (∀ w', w.meet? (.occurrence (.turn .begin)) = some w' → w.service.jobs = [] ∧
      ∀ (n : Nat) (key : ActionKey) (loss : Loss), w.received[n]? = some (.lost key loss) →
        ∃ result, (n, ⟨key, result⟩) ∈ w.reported) ∧
    (∀ n ∈ w.flights, w.buildOf n = w.begun) ∧
    (∀ d ∈ w.deeds, w.buildOf d.loss = d.build) ∧
    w.Ledger s.build := by
  have ha := s.aligned_watch events
  have halign := ha.live hw
  have hfiled : w.Filed :=
    Watch.invariant_of_live? (fun ha h hmet => hmet.filed ha h) ha (s.filed_watch events) hw
  have htimed : w.Timed :=
    Watch.invariant_of_live? (fun ha h hmet => hmet.timed ha h) ha (s.timed_watch events) hw
  have hledger : w.Ledger s.build :=
    Watch.invariant_of_live? (fun _ h hmet => hmet.ledger h) ha (s.ledger_watch events) hw
  refine ⟨fun w' hbegin => ?_, fun n hn => (htimed.flight hn).2, fun d hd => (htimed.deed hd).2,
    hledger⟩
  cases Watch.met_of_meet? halign hbegin with
  | begin hphase hjobs =>
    refine ⟨hjobs, fun n key loss hreceived => ?_⟩
    have hc : ¬w.service.Crashed := not_crashed_of_isAlive (by rw [hphase]; rfl)
    refine (hfiled.settled hc hreceived).resolve_left fun hn => ?_
    rw [halign.flights_eq_nil hjobs] at hn
    cases hn

/-- A loss is in flight when a build is announced. -/
def announced : List Incident := List.map .occurrence <|
  [.sent (trifle ⟨"//f", 0⟩), .sent .buildStarted, .turn .receive, .turn .receive] ++ working 5 0 ++
    [.turn (.join 0)]

theorem builds_isolated_announced : ∃ w w', (lone.watch []).live? announced = some w ∧
    w.meet? (.occurrence (.turn .begin)) = some w' ∧
    ∃ result, (0, ⟨⟨"//f", 0⟩, result⟩) ∈ w.reported := by
  obtain ⟨w', h⟩ := Option.isSome_iff_exists.1 (show (((lone.watch []).live? announced).bind
    fun w => w.meet? (.occurrence (.turn .begin))).isSome from by decide +kernel)
  obtain ⟨w, hw, hbegin⟩ := Option.bind_eq_some_iff.1 h
  have hreceived : w.received[0]? = some (trifle ⟨"//f", 0⟩) := by
    have hwaiting : ((lone.watch []).live? announced).map (fun w => w.service.events.length) =
      some 0 := by decide +kernel
    rw [hw] at hwaiting
    rw [Watch.received_of_events_nil (lone.aligned_watch []) hw
      (List.eq_nil_of_length_eq_zero (Option.some.inj hwaiting))]
    rfl
  exact ⟨w, w', hw, hbegin, ((builds_isolated lone [] hw).1 w' hbegin).2 0 _ _ hreceived⟩

end Session

end Rewinding
