import Rewinding.Proofs.Isolation
import Rewinding.Proofs.NewBuild

/-!
# Builds that are cancelled

From a cancellation on, up to the beginning of the next build, every loss that a service receives is
reported as interrupted, and its computation changes nothing. The build that begins then has no trace
of it: the service goes on as one does that was never cancelled and has the same nodes and executions
(`cancelled_until_begin`).

* `Hushed` is what incidents keep of the losses of a cancelled build. Their computations ask whether
  the build is cancelled before anything else, and the build that would answer no does not begin while
  they are in flight.
* `Service.following` puts the reports of earlier builds in front of those of a service, and commutes
  with whatever happens to it.
-/

namespace Rewinding

open Service

/-! ### Events after a cancellation -/

/-- Whether a build was cancelled after the last one was announced. -/
def isCancelled (received : List Event) : Bool :=
  received.foldl (fun cancelled event =>
    match event with
    | .buildStarted => false
    | .cancelled => true
    | .lost _ _ | .shutdown => cancelled) false

theorem isCancelled_concat (received : List Event) (event : Event) :
    isCancelled (received ++ [event]) =
      match event with
      | .buildStarted => false
      | .cancelled => true
      | .lost _ _ | .shutdown => isCancelled received := List.foldl_concat ..

theorem isCancelled_append {before between : List Event}
    (h : ∀ event ∈ between, event.isStart = false) :
    isCancelled (before ++ .cancelled :: between) = true := by
  induction between using List.reverseRecOn with
  | nil => exact isCancelled_concat before .cancelled
  | append_singleton between event ih =>
    have hbetween := ih fun e he => h e (List.mem_append_left _ he)
    have hevent := h event (List.mem_append_right _ (List.mem_singleton_self _))
    rw [← List.cons_append, ← List.append_assoc, isCancelled_concat]
    cases event with
    | buildStarted => cases hevent
    | cancelled => rfl
    | lost key loss | shutdown => exact hbetween

/-! ### Computations that are interrupted -/

namespace Service

variable {g : Graph}

/-- What a service reports for a loss of a cancelled build. -/
def interruption (key : ActionKey) : Report := ⟨key, .error .interrupted⟩

/-- A computation asks first whether the build is cancelled, and then ends without another step. -/
theorem exists_job_eq (v : Service g) (key : ActionKey) (loss : Loss) : ∃ next,
    v.job key loss = .ask .interrupted next ∧ next true = .done (.ok (interruption key)) :=
  ⟨_, rfl, rfl⟩

end Service

namespace Watch

variable {g : Graph} {w w' : Watch g} {incident : Incident}

/-- The event at place `n` is a loss, of which `p` holds if it was received in a cancelled build. -/
def IfCancelled (w : Watch g) (n : Nat) (p : ActionKey → Loss → Prop) : Prop :=
  ∃ key loss, w.received[n]? = some (.lost key loss) ∧
    (isCancelled (w.received.take n) = true → p key loss)

theorem IfCancelled.mono {n : Nat} {p q : ActionKey → Loss → Prop} (h : w.IfCancelled n p)
    (hpq : ∀ key loss, p key loss → q key loss) : w.IfCancelled n q := by
  obtain ⟨key, loss, hreceived, hp⟩ := h
  exact ⟨key, loss, hreceived, fun hc => hpq key loss (hp hc)⟩

theorem IfCancelled.congr {n : Nat} {p : ActionKey → Loss → Prop} (h : w.IfCancelled n p)
    {more : List Event} (hreceived : w'.received = w.received ++ more) : w'.IfCancelled n p := by
  obtain ⟨key, loss, hn, hp⟩ := h
  refine ⟨key, loss, ?_, fun hc => hp ?_⟩
  · rw [hreceived]
    exact getElem?_append_of_some hn more
  · rwa [hreceived, List.take_append_of_le_length (List.getElem?_eq_some_iff.1 hn).1.le] at hc

/-- The computation for a loss of a cancelled build has ended interrupted, or is about to ask whether
the build is cancelled, which it is. -/
def Halts (v : Service g) (job : Procedure g.roster (Except String Report)) (key : ActionKey)
    (loss : Loss) : Prop :=
  job = .done (.ok (interruption key)) ∨ job = v.job key loss ∧ v.build.interrupted = true

/-- The losses of cancelled builds are reported as interrupted, or will be. -/
structure Hushed (w : Watch g) : Prop where
  listening : w.service.phase = .listening → isCancelled w.received = true →
    w.service.build.interrupted = true
  starting : w.service.phase = .starting → isCancelled w.received = false
  flight {i n : Nat} {job : Procedure g.roster (Except String Report)} : w.flights[i]? = some n →
    w.service.jobs[i]? = some job → w.IfCancelled n (Halts w.service job)
  reported {n : Nat} {report : Report} : (n, report) ∈ w.reported →
    w.IfCancelled n fun key _ => report = interruption key

namespace Hushed

/-- What is received is handled while the build is cancelled, if it is. -/
theorem receive (hw : w.Hushed) (ha : w.Aligned) (hphase : w.service.phase = .listening)
    (event : Event) {events : List Event} :
    { w with
      service := { w.service with events }.receive event
      received := w.received ++ [event]
      flights := w.flights ++ event.lost?.toList.map fun _ => w.received.length }.Hushed where
  listening hlistening hcancelled := by
    have hcancelled : isCancelled (w.received ++ [event]) = true := hcancelled
    rw [isCancelled_concat] at hcancelled
    cases event with
    | cancelled => rfl
    | lost key loss => exact hw.listening hphase hcancelled
    | buildStarted | shutdown => cases hlistening
  starting hstarting := by
    show isCancelled (w.received ++ [event]) = false
    rw [isCancelled_concat]
    cases event with
    | buildStarted => rfl
    | lost key loss | cancelled => exact absurd (hphase.symm.trans hstarting) nofun
    | shutdown => cases hstarting
  flight {i n job} hn hj := by
    cases event with
    | lost key loss =>
      obtain ⟨hn, hj⟩ | ⟨-, rfl, rfl⟩ := getElem?_concat_both ha.flights hn hj
      · exact (hw.flight hn hj).congr rfl
      · refine ⟨key, loss, List.getElem?_concat_length, fun hc => Or.inr ⟨rfl, ?_⟩⟩
        rw [List.take_left] at hc
        exact hw.listening hphase hc
    | cancelled =>
      rw [show Event.lost? _ = none from rfl, Option.toList_none, List.map_nil, List.append_nil] at hn
      refine ((hw.flight hn hj).congr rfl).mono fun key loss hjob => ?_
      exact hjob.imp_right fun h => ⟨h.1, rfl⟩
    | buildStarted | shutdown =>
      rw [show Event.lost? _ = none from rfl, Option.toList_none, List.map_nil, List.append_nil] at hn
      exact (hw.flight hn hj).congr rfl
  reported hreport := (hw.reported hreport).congr rfl

/-- The next step of a computation does not change whether the build is cancelled, and ends it if it
asks for that. -/
theorem work (hw : w.Hushed) {i : Nat} {step : Step g.roster}
    {next : step.Answer → Procedure g.roster (Except String Report)}
    (hi : w.service.jobs[i]? = some (.ask step next)) {deeds : List (Deed g.roster)} :
    { w with
      service :=
        { w.service with
          build := ((Build.world g w.service.reporter).answer step w.service.build).2
          jobs := w.service.jobs.set i
            (next ((Build.world g w.service.reporter).answer step w.service.build).1) }
      deeds }.Hushed where
  listening hphase hc := (Build.interrupted_answer ..).trans (hw.listening hphase hc)
  starting := hw.starting
  flight {j n job} hn hj := by
    obtain ⟨rfl, rfl⟩ | hj := getElem?_set_of_some hi hj
    · refine (hw.flight hn hi).mono fun key loss hjob => Or.inl ?_
      obtain hjob | ⟨hjob, hcancelled⟩ := hjob
      · cases hjob
      · obtain ⟨next', hnext, hends⟩ := w.service.exists_job_eq key loss
        cases hjob.trans hnext
        show next' w.service.build.interrupted = _
        rw [hcancelled, hends]
    · refine (hw.flight hn hj).mono fun key loss hjob => ?_
      exact hjob.imp_right fun h => ⟨h.1, (Build.interrupted_answer ..).trans h.2⟩
  reported := hw.reported

/-- What is reported is what its computation ended with. -/
theorem report (hw : w.Hushed) {i n : Nat} {report : Report} {reports : List Report}
    (hi : w.service.jobs[i]? = some (.done (.ok report))) (hn : w.flights[i]? = some n) :
    { w with
      service := { w.service with jobs := w.service.jobs.eraseIdx i, reports }
      flights := w.flights.eraseIdx i
      reported := w.reported ++ [(n, report)] }.Hushed where
  listening := hw.listening
  starting := hw.starting
  flight hm hj := by
    obtain ⟨k, hm, hj⟩ := exists_getElem?_of_eraseIdx hm hj
    exact hw.flight hm hj
  reported hreport := by
    obtain hreport | hreport := List.mem_append.1 hreport
    · exact hw.reported hreport
    · cases List.mem_singleton.1 hreport
      refine (hw.flight hn hi).mono fun key loss hjob => ?_
      obtain hjob | ⟨hjob, -⟩ := hjob
      · cases hjob
        rfl
      · obtain ⟨next, hnext, -⟩ := w.service.exists_job_eq key loss
        cases hjob.trans hnext

end Hushed

theorem Met.hushed (h : w.Met incident w') (ha : w.Aligned) (hw : w.Hushed) : w'.Hushed := by
  cases h with
  | receive hphase _ => exact hw.receive ha hphase _
  | work hi _ => exact hw.work hi
  | report hi hn _ => exact hw.report hi hn
  | fail _ _ =>
    refine ⟨nofun, nofun, fun hn hj => ?_, hw.reported⟩
    obtain ⟨k, hn, hj⟩ := exists_getElem?_of_eraseIdx hn hj
    exact hw.flight hn hj
  | begin hphase hjobs =>
    refine ⟨fun _ hc => ?_, nofun, fun hn => ?_, hw.reported⟩
    · rw [hw.starting hphase] at hc
      cases hc
    · -- no computation is left that could find the new build not cancelled
      rw [ha.flights_eq_nil hjobs] at hn
      cases hn
  | finish _ _ | hungUp _ _ _ => exact ⟨nofun, nofun, hw.flight, hw.reported⟩
  | sent _ _ | closed | deafened => exact ⟨hw.listening, hw.starting, hw.flight, hw.reported⟩

/-! ### How an interruption is reported -/

variable {i n : Nat}

theorem exists_meet?_work (hheard : w.heard = true) {step : Step g.roster}
    {next : step.Answer → Procedure g.roster (Except String Report)}
    (hi : w.service.jobs[i]? = some (.ask step next)) (hn : w.flights[i]? = some n) :
    ∃ w', w.meet? (.occurrence (.turn (.work i))) = some w' ∧ w'.heard = true ∧
      w'.service.phase = w.service.phase ∧ w'.flights[i]? = some n ∧ w'.service.jobs[i]? =
        some (next ((Build.world g w.service.reporter).answer step w.service.build).1) := by
  have hturn : w.turn? (.work i) = some
      { w.service with
        build := ((Build.world g w.service.reporter).answer step w.service.build).2
        jobs := w.service.jobs.set i
          (next ((Build.world g w.service.reporter).answer step w.service.build).1) } := by
    unfold turn? Service.turn?
    simp only [if_pos hheard, hi]
  refine ⟨_, congrArg (Option.map (w.note (.work i))) hturn, ?_⟩
  unfold note
  simp only [hi, hn]
  exact ⟨hheard, trivial, trivial, List.getElem?_set_self (List.getElem?_eq_some_iff.1 hi).1⟩

theorem exists_meet?_join (hheard : w.heard = true) (halive : w.service.phase.isAlive = true)
    {report : Report} (hi : w.service.jobs[i]? = some (.done (.ok report)))
    (hn : w.flights[i]? = some n) :
    ∃ w', w.meet? (.occurrence (.turn (.join i))) = some w' ∧ (n, report) ∈ w'.reported := by
  have hturn : w.turn? (.join i) =
      some ({ w.service with jobs := w.service.jobs.eraseIdx i }.join (.ok report)) := by
    unfold turn? Service.turn?
    simp only [if_pos hheard, hi, if_pos halive]
  refine ⟨_, congrArg (Option.map (w.note (.join i))) hturn, ?_⟩
  unfold note
  simp only [hi, hn, if_pos hheard]
  exact List.mem_append_right _ (List.mem_singleton_self _)

/-- As long as somebody takes reports, the loss of a cancelled build that is in flight can be reported
within two turns: one more step of its computation, and its report. -/
theorem Hushed.exists_live? (hw : w.Hushed) (ha : w.Aligned) (hheard : w.heard = true)
    (halive : w.service.phase.isAlive = true) (hn : n ∈ w.flights) {key : ActionKey} {loss : Loss}
    (hreceived : w.received[n]? = some (.lost key loss))
    (hc : isCancelled (w.received.take n) = true) :
    ∃ rest w', rest.length ≤ 2 ∧ w.live? rest = some w' ∧ (n, interruption key) ∈ w'.reported := by
  obtain ⟨i, hn⟩ := List.getElem?_of_mem hn
  have hlt : i < w.service.jobs.length := ha.flights ▸ (List.getElem?_eq_some_iff.1 hn).1
  obtain ⟨key', loss', hreceived', hjob⟩ := hw.flight hn (List.getElem?_eq_getElem hlt)
  cases Option.some.inj (hreceived.symm.trans hreceived')
  obtain hdone | ⟨hjob, hcancelled⟩ := hjob hc
  case inl =>
    obtain ⟨w', hjoin, hreport⟩ := exists_meet?_join hheard halive
      ((List.getElem?_eq_getElem hlt).trans (congrArg some hdone)) hn
    refine ⟨[.occurrence (.turn (.join i))], w', Nat.le_succ 1, ?_, hreport⟩
    rw [live?, hjoin]
    rfl
  case inr =>
    obtain ⟨next, hask, hnext⟩ := w.service.exists_job_eq key loss
    obtain ⟨u, hwork, hheard', hphase, hn', hjob'⟩ := exists_meet?_work hheard
      ((List.getElem?_eq_getElem hlt).trans (congrArg some (hjob.trans hask))) hn
    have hends : next w.service.build.interrupted = .done (.ok (interruption key)) := by
      rw [hcancelled, hnext]
    obtain ⟨w', hjoin, hreport⟩ := exists_meet?_join hheard' (hphase ▸ halive)
      (hjob'.trans (congrArg some hends)) hn'
    refine ⟨[.occurrence (.turn (.work i)), .occurrence (.turn (.join i))], w', Nat.le_refl 2, ?_,
      hreport⟩
    rw [live?, hwork, Option.bind_some, live?, hjoin]
    rfl

end Watch

/-! ### The next build -/

namespace Service

variable {g : Graph}

/-- The service with earlier reports in front of its own and of those that its build keeps. -/
def following (v : Service g) (earlier : List String) (reports : List Report) : Service g :=
  { v with build := v.build.following earlier, reports := reports ++ v.reports }

section Following

variable (v : Service g) (earlier : List String) (reports : List Report)

theorem receive_following (event : Event) :
    (v.following earlier reports).receive event = (v.receive event).following earlier reports := by
  cases event <;> rfl

theorem join_following (result : Except String Report) :
    (v.following earlier reports).join result = (v.join result).following earlier reports := by
  cases result with
  | error message => rfl
  | ok report =>
    exact congrArg (fun reports' => { v with build := v.build.following earlier, reports := reports' })
      (List.append_assoc reports v.reports [report])

theorem turn?_following (turn : Turn) :
    (v.following earlier reports).turn? turn =
      (v.turn? turn).map fun w => w.following earlier reports := by
  cases turn with
  | receive =>
    obtain ⟨reporter, maxRewinds, b, phase, jobs, events, closed, sent⟩ := v
    cases phase with
    | listening =>
      cases events with
      | nil => cases closed <;> rfl
      | cons event events =>
        exact congrArg some (receive_following
          ⟨reporter, maxRewinds, b, .listening, jobs, events, closed, sent⟩ earlier reports event)
    | starting | closing | ended | failed _ => rfl
  | work i =>
    have hjobs : (v.following earlier reports).jobs[i]? = v.jobs[i]? := rfl
    simp only [turn?, hjobs]
    split
    case h_1 step next _ =>
      have hanswer : (Build.world g v.reporter).answer step (v.build.following earlier) = _ :=
        Build.answer_following step v.build earlier
      exact congrArg (fun r : step.Answer × Build => some { v with
        build := r.2, jobs := v.jobs.set i (next r.1), reports := reports ++ v.reports }) hanswer
    case h_2 => rfl
  | join i =>
    have hjobs : (v.following earlier reports).jobs[i]? = v.jobs[i]? := rfl
    simp only [turn?, hjobs]
    split
    case h_1 result _ =>
      by_cases halive : v.phase.isAlive = true
      case pos =>
        rw [if_pos halive]
        exact (if_pos halive).trans
          (congrArg some (join_following { v with jobs := v.jobs.eraseIdx i } earlier reports result))
      case neg =>
        rw [if_neg halive]
        exact if_neg halive
    case h_2 => rfl
  | begin =>
    obtain ⟨reporter, maxRewinds, b, phase, jobs, events, closed, sent⟩ := v
    cases phase with
    | starting => cases jobs <;> rfl
    | listening | closing | ended | failed _ => rfl
  | finish =>
    obtain ⟨reporter, maxRewinds, b, phase, jobs, events, closed, sent⟩ := v
    cases phase with
    | closing => cases jobs <;> rfl
    | listening | starting | ended | failed _ => rfl

theorem meet?_following (occurrence : Occurrence) :
    (v.following earlier reports).meet? occurrence =
      (v.meet? occurrence).map fun w => w.following earlier reports := by
  cases occurrence with
  | turn turn => exact v.turn?_following earlier reports turn
  | closed => rfl
  | sent event =>
    show (if v.closed then none else if v.phase.isAlive then _ else none) =
      (if v.closed then none else if v.phase.isAlive then _ else none : Option (Service g)).map _
    split
    · rfl
    · split <;> rfl

theorem live?_following (course : List Occurrence) :
    (v.following earlier reports).live? course =
      (v.live? course).map fun w => w.following earlier reports := by
  induction course generalizing v with
  | nil => rfl
  | cons occurrence rest ih =>
    rw [live?, live?, meet?_following]
    cases v.meet? occurrence with
    | none => rfl
    | some w => exact ih w

end Following

/-- A service that waits for the events that `v` waits for, after the announcement of a build, and has
the same nodes and executions. It has seen no event, and so no cancellation. -/
def anew (v : Service g) (history : History) (attempts : Std.ExtTreeMap ActionKey UInt32) :
    Service g where
  reporter := v.reporter
  maxRewinds := v.maxRewinds
  build := { evaluation := v.build.evaluation, cache := v.build.cache, history, attempts }
  events := .buildStarted :: v.events
  closed := v.closed

/-- A service that begins a build goes on like one that has seen nothing before. -/
theorem live?_of_begin {v x : Service g} (h : v.turn? .begin = some x) (history : History)
    (attempts : Std.ExtTreeMap ActionKey UInt32) (course : List Occurrence) :
    x.live? course =
      ((v.anew history attempts).live? (.turn .receive :: .turn .begin :: course)).map
        fun u => u.following v.build.reports v.reports := by
  cases turned_of_turn? h with
  | begin hphase hjobs =>
    have hbegin : v.begin = { v.anew history attempts with
        build := (v.anew history attempts).build.begin
        events := v.events }.following v.build.reports v.reports := by
      show { v with build := v.build.begin, phase := .listening } =
        { reporter := v.reporter, maxRewinds := v.maxRewinds,
          build := v.build.bare.following v.build.reports, events := v.events, closed := v.closed,
          reports := v.reports ++ [] : Service g }
      rw [Build.begin_eq, hjobs, List.append_nil]
    rw [hbegin, live?_following]
    rfl

end Service

namespace Watch

variable {g : Graph} {w : Watch g}

/-- No step of a computation for a loss of a cancelled build changes anything. -/
theorem Hushed.build_work (hw : w.Hushed) {i n : Nat} {key : ActionKey} {loss : Loss}
    (hreceived : w.received[n]? = some (.lost key loss))
    (hc : isCancelled (w.received.take n) = true) (hn : w.flights[i]? = some n) {v : Service g}
    (hv : w.service.turn? (.work i) = some v) : v.build = w.service.build := by
  cases turned_of_turn? hv with
  | work hi =>
    obtain ⟨key', loss', hreceived', hjob⟩ := hw.flight hn hi
    cases Option.some.inj (hreceived.symm.trans hreceived')
    obtain hdone | ⟨hask, -⟩ := hjob hc
    · cases hdone
    · obtain ⟨next, hjob, -⟩ := w.service.exists_job_eq key loss
      cases hask.trans hjob
      rfl

end Watch

namespace Session

theorem hushed_watch (s : Session) (events : List Event) : (s.watch events).Hushed :=
  ⟨nofun, nofun, nofun, nofun⟩

/-- **A cancellation lasts until the next build.** A loss received after a cancellation, with no build
announced between, is reported as interrupted unless the service crashes: it is in flight, and can be
reported after a step at most, or it has been reported so; and no step of its computation changes
anything. When the next build begins, the service goes on like one that has the same nodes and
executions and was never cancelled. -/
theorem cancelled_until_begin (s : Session) (events : List Event) {course : List Incident}
    {w : Watch s.graph} (hw : (s.watch events).live? course = some w) :
    (∀ (before between after : List Event) (key : ActionKey) (loss : Loss),
      w.received = before ++ .cancelled :: between ++ .lost key loss :: after →
      (∀ event ∈ between, event.isStart = false) →
      let n := (before ++ .cancelled :: between).length
      (¬w.service.Crashed → n ∈ w.flights ∨ (n, interruption key) ∈ w.reported) ∧
      (n ∈ w.flights → w.heard = true → w.service.phase.isAlive = true → ∃ rest w',
        rest.length ≤ 2 ∧ w.live? rest = some w' ∧ (n, interruption key) ∈ w'.reported) ∧
      (∀ report, (n, report) ∈ w.reported → report = interruption key) ∧
      ∀ i v, w.flights[i]? = some n → w.service.turn? (.work i) = some v →
        v.build = w.service.build) ∧
    ∀ x, w.service.turn? .begin = some x → ∀ history attempts rest,
      x.live? rest =
        ((w.service.anew history attempts).live? (.turn .receive :: .turn .begin :: rest)).map
          fun u => u.following w.service.build.reports w.service.reports := by
  have ha := s.aligned_watch events
  have halign := ha.live hw
  have hfiled : w.Filed :=
    Watch.invariant_of_live? (fun ha h hmet => hmet.filed ha h) ha (s.filed_watch events) hw
  have hhushed : w.Hushed :=
    Watch.invariant_of_live? (fun ha h hmet => hmet.hushed ha h) ha (s.hushed_watch events) hw
  refine ⟨fun before between after key loss hevents hstart => ?_,
    fun x hx history attempts rest => live?_of_begin hx history attempts rest⟩
  intro n
  have hreceived : w.received[n]? = some (.lost key loss) := by
    rw [hevents, List.getElem?_append_right (Nat.le_refl _), Nat.sub_self]
    rfl
  have hc : isCancelled (w.received.take n) = true := by
    rw [hevents, List.take_left]
    exact isCancelled_append hstart
  have hreported : ∀ report, (n, report) ∈ w.reported → report = interruption key := by
    intro report hreport
    obtain ⟨key', loss', hreceived', h⟩ := hhushed.reported hreport
    cases Option.some.inj (hreceived.symm.trans hreceived')
    exact h hc
  refine ⟨fun hcrash => ?_,
    fun hn hheard halive => hhushed.exists_live? halign hheard halive hn hreceived hc, hreported,
    fun i v hn hv => hhushed.build_work hreceived hc hn hv⟩
  refine (hfiled.settled hcrash hreceived).imp_right fun ⟨result, hresult⟩ => ?_
  rwa [hreported _ hresult] at hresult

/-- A loss is received between a cancellation and the announcement of a build, and reported. -/
def belated : List Incident := List.map .occurrence <|
  [.sent .cancelled, .sent (trifle ⟨"//f", 0⟩), .sent .buildStarted] ++
    List.replicate 3 (.turn .receive) ++ working 1 0 ++ [.turn (.join 0)]

theorem cancelled_until_begin_belated : ∃ w x, (lone.watch []).live? belated = some w ∧
    w.service.turn? .begin = some x ∧ (1, interruption ⟨"//f", 0⟩) ∈ w.reported := by
  obtain ⟨x, h⟩ := Option.isSome_iff_exists.1 (show (((lone.watch []).live? belated).bind
    fun w => w.service.turn? .begin).isSome from by decide +kernel)
  obtain ⟨w, hw, hbegin⟩ := Option.bind_eq_some_iff.1 h
  have hwaiting : ((lone.watch []).live? belated).map (fun w => w.service.events.length) =
    some 0 := by decide +kernel
  rw [hw] at hwaiting
  have hreceived := Watch.received_of_events_nil (lone.aligned_watch []) hw
    (List.eq_nil_of_length_eq_zero (Option.some.inj hwaiting))
  obtain ⟨hreported, -⟩ :=
    (cancelled_until_begin lone [] hw).1 [] [] [.buildStarted] _ _ hreceived nofun
  cases turned_of_turn? hbegin with
  | begin hphase hjobs =>
    have halign := (lone.aligned_watch []).live hw
    have hc : ¬w.service.Crashed := not_crashed_of_isAlive (by rw [hphase]; rfl)
    refine ⟨w, _, hw, hbegin, (hreported hc).resolve_left fun hn => ?_⟩
    rw [halign.flights_eq_nil hjobs] at hn
    cases hn

end Session

end Rewinding
