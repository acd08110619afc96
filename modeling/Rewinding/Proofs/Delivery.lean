import Mathlib.Data.List.InsertIdx
import Mathlib.Data.List.Perm.Basic
import Rewinding.Service

/-!
# What a service reports

A service reports from three places: while it listens, before it begins a build, and before it ends.
`Service.Accounts` is what every turn keeps: what has been reported and what is in flight are together
what the service was told of. So a service that has ended has reported on each loss that it was told of
before a shutdown, and on each once (`reports_of_ended`), whatever the order in which it took its turns
and its clients sent their events.

A computation in flight knows which action it will report on, but does not show it until it ends;
`Procedure.Ends` says it of all its ends.
-/

namespace Rewinding

/-- Whatever its steps are answered, a procedure ends with a value that satisfies `post`, if at all. -/
def Procedure.Ends {known : List Action} {α : Type} (post : α → Prop) : Procedure known α → Prop
  | .done value => post value
  | .ask _ next => ∀ answer, (next answer).Ends post

theorem Procedure.Ends.bind {known : List Action} {α β : Type} {post : β → Prop}
    {f : α → Procedure known β} (hf : ∀ value, (f value).Ends post) (p : Procedure known α) :
    (p >>= f).Ends post := by
  show (p.bind f).Ends post
  induction p with
  | done value => exact hf value
  | ask step next ih => exact ih

namespace Event

/-- The action whose loss an event tells of. -/
def lost? : Event → Option ActionKey
  | .lost key _ => some key
  | _ => none

def isShutdown : Event → Bool
  | .shutdown => true
  | _ => false

/-- The actions whose losses some events tell of, up to a shutdown. -/
def heeded (events : List Event) : List ActionKey :=
  (events.takeWhile fun event => !event.isShutdown).filterMap lost?

theorem heeded_append {events rest : List Event} (h : ∀ event ∈ events, event.isShutdown = false) :
    heeded (events ++ rest) = events.filterMap lost? ++ heeded rest := by
  unfold heeded
  rw [List.takeWhile_append_of_pos, List.filterMap_append]
  intro event he
  rw [h event he]
  rfl

end Event

namespace Service

variable {g : Graph}

/-- A computation reports on an action if it ends without a crash. -/
def ReportsOn (key : ActionKey) : Procedure g.roster (Except String Report) → Prop :=
  Procedure.Ends fun result => ∀ report, result = .ok report → report.action = key

theorem reportsOn_job (v : Service g) (key : ActionKey) (loss : Loss) :
    ReportsOn key (v.job key loss) := by
  unfold ReportsOn job
  refine Procedure.Ends.bind (fun result => ?_) _
  intro report hreport
  cases hs : Stop.split result with
  | error message =>
    rw [hs] at hreport
    cases hreport
  | ok result =>
    rw [hs] at hreport
    obtain rfl := Except.ok.inj hreport
    rfl

/-! ### What happens to a service -/

/-- The turns that a service can take, each with the service after it. -/
inductive Turned (v : Service g) : Turn → Service g → Prop where
  | receive {event : Event} {events : List Event} : v.phase = .listening →
      v.events = event :: events → v.Turned .receive ({ v with events }.receive event)
  /-- Nothing more will be sent. -/
  | hungUp : v.phase = .listening → v.events = [] → v.closed = true →
      v.Turned .receive { v with phase := .closing }
  | work {i : Nat} {step : Step g.roster}
      {next : step.Answer → Procedure g.roster (Except String Report)} :
      v.jobs[i]? = some (.ask step next) → v.Turned (.work i)
        { v with
          build := ((Build.world g v.reporter).answer step v.build).2
          jobs := v.jobs.set i (next ((Build.world g v.reporter).answer step v.build).1) }
  | join {i : Nat} {result : Except String Report} : v.jobs[i]? = some (.done result) →
      v.phase.isAlive = true → v.Turned (.join i) ({ v with jobs := v.jobs.eraseIdx i }.join result)
  | begin : v.phase = .starting → v.jobs = [] → v.Turned .begin v.begin
  | finish : v.phase = .closing → v.jobs = [] → v.Turned .finish { v with phase := .ended }

theorem turned_of_turn? {v w : Service g} {turn : Turn} (h : v.turn? turn = some w) :
    v.Turned turn w := by
  cases turn with
  | receive =>
    simp only [turn?] at h
    split at h
    case isFalse => cases h
    case isTrue hphase =>
      split at h
      case h_1 hevents =>
        obtain rfl := Option.some.inj h
        exact .receive hphase hevents
      case h_2 hevents =>
        split at h
        case isFalse => cases h
        case isTrue hclosed =>
          obtain rfl := Option.some.inj h
          exact .hungUp hphase hevents hclosed
  | work i =>
    simp only [turn?] at h
    split at h
    case h_2 => cases h
    case h_1 hi =>
      obtain rfl := Option.some.inj h
      exact .work hi
  | join i =>
    simp only [turn?] at h
    split at h
    case h_2 => cases h
    case h_1 hi =>
      split at h
      case isFalse => cases h
      case isTrue halive =>
        obtain rfl := Option.some.inj h
        exact .join hi halive
  | begin =>
    simp only [turn?] at h
    split at h
    case isFalse => cases h
    case isTrue hwait =>
      obtain rfl := Option.some.inj h
      exact .begin hwait.1 (List.isEmpty_iff.1 hwait.2)
  | finish =>
    simp only [turn?] at h
    split at h
    case isFalse => cases h
    case isTrue hwait =>
      obtain rfl := Option.some.inj h
      exact .finish hwait.1 (List.isEmpty_iff.1 hwait.2)

/-- A service takes a turn, or is sent an event, or nothing more will be sent to it. -/
inductive Occurrence where
  | turn (turn : Turn)
  | sent (event : Event)
  | closed

def Occurrence.event? : Occurrence → Option Event
  | .sent event => some event
  | _ => none

/-- What comes of an occurrence, if it is possible now. -/
def meet? (v : Service g) : Occurrence → Option (Service g)
  | .turn turn => v.turn? turn
  | .sent event => if v.closed then none else v.send? event
  | .closed => some v.close

/-- What comes of some occurrences, one after another. -/
def live? (v : Service g) : List Occurrence → Option (Service g)
  | [] => some v
  | occurrence :: rest => (v.meet? occurrence).bind fun w => w.live? rest

/-- The events that are sent to a service. -/
def sent (course : List Occurrence) : List Event := course.filterMap Occurrence.event?

theorem sent_cons (occurrence : Occurrence) (rest : List Occurrence) :
    sent (occurrence :: rest) = occurrence.event?.toList ++ sent rest := by
  unfold sent
  rw [List.filterMap_cons]
  cases occurrence.event? <;> rfl

/-! ### What is reported and what is in flight -/

/-- What has been reported on and what the computations in flight will report on are together some
actions, each as often as it is among them. -/
def Balanced (v : Service g) (told : List ActionKey) : Prop :=
  ∃ due : List (ActionKey × Procedure g.roster (Except String Report)),
    v.jobs = due.map Prod.snd ∧ (∀ job ∈ due, ReportsOn job.1 job.2) ∧
      (v.reports.map Report.action ++ due.map Prod.fst).Perm told

namespace Balanced

variable {v w : Service g} {told : List ActionKey}

theorem congr (h : v.Balanced told) (hjobs : w.jobs = v.jobs) (hreports : w.reports = v.reports) :
    w.Balanced told := by
  unfold Balanced at h ⊢
  rwa [hjobs, hreports]

/-- A computation begins for each loss. -/
theorem receive (h : v.Balanced told) (event : Event) :
    (v.receive event).Balanced (told ++ event.lost?.toList) := by
  cases event with
  | buildStarted | cancelled | shutdown =>
    rw [show Event.lost? _ = none from rfl, Option.toList_none, List.append_nil]
    exact h
  | lost key loss =>
    obtain ⟨due, hjobs, hdue, hperm⟩ := h
    refine ⟨due ++ [(key, v.job key loss)], ?_, ?_, ?_⟩
    · show v.jobs ++ [v.job key loss] = _
      rw [hjobs, List.map_append]
      rfl
    · intro job hjob
      obtain hjob | hjob := List.mem_append.1 hjob
      · exact hdue job hjob
      · rw [List.mem_singleton.1 hjob]
        exact v.reportsOn_job key loss
    · rw [List.map_append, ← List.append_assoc]
      exact hperm.append_right [key]

/-- A step of a computation leaves it with the same action to report on. -/
theorem work (h : v.Balanced told) {i : Nat} {step : Step g.roster}
    {next : step.Answer → Procedure g.roster (Except String Report)}
    (hi : v.jobs[i]? = some (.ask step next)) (answer : step.Answer) (b : Build) :
    { v with build := b, jobs := v.jobs.set i (next answer) }.Balanced told := by
  obtain ⟨due, hjobs, hdue, hperm⟩ := h
  rw [hjobs, List.getElem?_map] at hi
  obtain ⟨⟨key, job⟩, hjob, rfl⟩ := Option.map_eq_some_iff.1 hi
  have hnext : ReportsOn key (next answer) := hdue _ (List.mem_of_getElem? hjob) answer
  have hsame : (due.set i (key, next answer)).map Prod.fst = due.map Prod.fst := by
    obtain ⟨hlt, hget⟩ := List.getElem?_eq_some_iff.1 hjob
    have hkey : (due.map Prod.fst)[i]? = some key := by
      rw [List.getElem?_map, hjob]
      rfl
    obtain ⟨hlt, rfl⟩ := List.getElem?_eq_some_iff.1 hkey
    rw [List.map_set]
    exact List.set_getElem_self hlt
  refine ⟨due.set i (key, next answer), ?_, ?_, ?_⟩
  · show v.jobs.set i (next answer) = _
    rw [hjobs, List.map_set]
  · intro other hother
    obtain hother | rfl := List.mem_or_eq_of_mem_set hother
    · exact hdue other hother
    · exact hnext
  · rw [hsame]
    exact hperm

/-- A computation that is joined without a crash is reported. -/
theorem join (h : v.Balanced told) {i : Nat} {report : Report}
    (hi : v.jobs[i]? = some (.done (.ok report))) :
    ({ v with jobs := v.jobs.eraseIdx i }.join (.ok report)).Balanced told := by
  obtain ⟨due, hjobs, hdue, hperm⟩ := h
  rw [hjobs, List.getElem?_map] at hi
  obtain ⟨⟨key, job⟩, hjob, rfl⟩ := Option.map_eq_some_iff.1 hi
  obtain ⟨hlt, hget⟩ := List.getElem?_eq_some_iff.1 hjob
  have hkey : report.action = key := hdue _ (List.mem_of_getElem? hjob) report rfl
  have hrest : (key :: (due.eraseIdx i).map Prod.fst).Perm (due.map Prod.fst) := by
    have := (List.getElem_cons_eraseIdx_perm hlt).map Prod.fst
    rwa [hget] at this
  refine ⟨due.eraseIdx i, ?_, fun other hother => hdue other (List.mem_of_mem_eraseIdx hother), ?_⟩
  · show v.jobs.eraseIdx i = _
    rw [hjobs, List.eraseIdx_map]
  · show ((v.reports ++ [report]).map Report.action ++ _).Perm told
    rw [List.map_append, List.append_assoc]
    refine List.Perm.trans ?_ hperm
    refine List.Perm.append_left _ ?_
    show (report.action :: (due.eraseIdx i).map Prod.fst).Perm _
    rw [hkey]
    exact hrest

end Balanced

/-! ### What has been received -/

/-- A computation crashed, and the service with it. -/
def Crashed (v : Service g) : Prop := ∃ message, v.phase = .failed message

/-- What a service is doing and has done agrees with the events that it has received. -/
structure Follows (v : Service g) (received : List Event) : Prop where
  balanced : v.Balanced (received.filterMap Event.lost?)
  /-- As long as it may receive more, it was not told to shut down. -/
  receiving : v.phase = .listening ∨ v.phase = .starting →
    ∀ event ∈ received, event.isShutdown = false
  /-- It ends because it was told to, or because nothing more is sent. -/
  ending : v.phase = .closing ∨ v.phase = .ended →
    (∃ before, received = before ++ [.shutdown] ∧ ∀ event ∈ before, event.isShutdown = false) ∨
      (∀ event ∈ received, event.isShutdown = false) ∧ v.closed = true ∧ v.events = []
  /-- It ends when nothing is in flight. -/
  idle : v.phase = .ended → v.jobs = []

namespace Follows

variable {v w : Service g} {received : List Event}

theorem start (hphase : v.phase = .listening) (hjobs : v.jobs = []) (hreports : v.reports = []) :
    v.Follows [] where
  balanced := ⟨[], hjobs, by simp, by simp [hreports]⟩
  receiving := by simp
  ending h := by simp [hphase] at h
  idle h := by simp [hphase] at h

/-- The event that was sent first is received. -/
theorem receive (h : v.Follows received) (hphase : v.phase = .listening) (event : Event)
    (events : List Event) : ({ v with events }.receive event).Follows (received ++ [event]) := by
  have hbalanced : { v with events }.Balanced (received.filterMap Event.lost?) :=
    h.balanced.congr rfl rfl
  have hlost : (received ++ [event]).filterMap Event.lost? =
      received.filterMap Event.lost? ++ event.lost?.toList := by
    rw [List.filterMap_append]
    cases event <;> rfl
  have hopen := h.receiving (Or.inl hphase)
  have hopen' : event.isShutdown = false → ∀ e ∈ received ++ [event], e.isShutdown = false := by
    intro hevent e he
    obtain he | he := List.mem_append.1 he
    · exact hopen e he
    · rwa [List.mem_singleton.1 he]
  refine ⟨hlost ▸ hbalanced.receive event, fun hw => ?_, fun hw => ?_, fun hw => ?_⟩
  · cases event with
    | buildStarted | lost _ _ | cancelled => exact hopen' rfl
    | shutdown => simp [Service.receive] at hw
  · cases event with
    | shutdown => exact Or.inl ⟨received, rfl, hopen⟩
    | buildStarted | lost _ _ | cancelled => simp [Service.receive, hphase] at hw
  · cases event <;> simp [Service.receive, hphase] at hw

/-- As long as nothing is received, the same events account for a service. -/
theorem exists_taken {events : List Event} (h : w.Follows received) (hevents : w.events = events) :
    ∃ taken, taken ++ w.events = events ∧ w.Follows (received ++ taken) :=
  ⟨[], hevents, (List.append_nil received).symm ▸ h⟩

/-- **A turn keeps the accounts**, unless it joins a computation that crashed. -/
theorem turn (h : v.Follows received) {turn : Turn} (ht : v.Turned turn w) :
    w.Crashed ∨ ∃ taken, taken ++ w.events = v.events ∧ w.Follows (received ++ taken) := by
  cases ht with
  | @receive event events hphase hevents =>
    refine Or.inr ⟨[event], ?_, h.receive hphase event events⟩
    rw [hevents]
    cases event <;> rfl
  | hungUp hphase hevents hclosed =>
    refine Or.inr (exists_taken ?_ rfl)
    exact ⟨h.balanced.congr rfl rfl, nofun,
      fun _ => Or.inr ⟨h.receiving (Or.inl hphase), hclosed, hevents⟩, nofun⟩
  | work hi =>
    refine Or.inr (exists_taken ?_ rfl)
    refine ⟨h.balanced.work hi _ _, h.receiving, h.ending, fun hended => ?_⟩
    -- what has ended has nothing in flight
    rw [h.idle hended] at hi
    cases hi
  | @join i result hi halive =>
    cases result with
    | error message => exact Or.inl ⟨message, rfl⟩
    | ok report =>
      refine Or.inr (exists_taken ?_ rfl)
      refine ⟨h.balanced.join hi, h.receiving, h.ending, fun hended => ?_⟩
      have hphase : v.phase = .ended := hended
      rw [hphase] at halive
      cases halive
  | begin hphase _ =>
    refine Or.inr (exists_taken ?_ rfl)
    exact ⟨h.balanced.congr rfl rfl, fun _ => h.receiving (Or.inr hphase), nofun, nofun⟩
  | finish hphase hjobs =>
    refine Or.inr (exists_taken ?_ rfl)
    exact ⟨h.balanced.congr rfl rfl, nofun, fun _ => h.ending (Or.inl hphase), fun _ => hjobs⟩

/-- So does what clients do. -/
theorem meet (h : v.Follows received) {occurrence : Occurrence}
    (hw : v.meet? occurrence = some w) :
    w.Crashed ∨ ∃ taken, taken ++ w.events = v.events ++ occurrence.event?.toList ∧
      w.Follows (received ++ taken) := by
  cases occurrence with
  | turn t =>
    rw [show Occurrence.event? (.turn t) = none from rfl, Option.toList_none, List.append_nil]
    exact h.turn (turned_of_turn? hw)
  | sent event =>
    unfold meet? send? at hw
    simp only at hw
    split at hw
    case isTrue => cases hw
    case isFalse hclosed =>
      split at hw
      case isFalse => cases hw
      case isTrue =>
        obtain rfl := Option.some.inj hw
        refine Or.inr (exists_taken ?_ rfl)
        refine ⟨h.balanced.congr rfl rfl, h.receiving, fun hending => ?_, h.idle⟩
        obtain hshutdown | ⟨-, hc, -⟩ := h.ending hending
        · exact Or.inl hshutdown
        · exact absurd hc hclosed
  | closed =>
    obtain rfl := Option.some.inj hw
    refine Or.inr (exists_taken ?_ (List.append_nil v.events).symm)
    refine ⟨h.balanced.congr rfl rfl, h.receiving, fun hending => ?_, h.idle⟩
    obtain hshutdown | ⟨hopen, -, hevents⟩ := h.ending hending
    · exact Or.inl hshutdown
    · exact Or.inr ⟨hopen, rfl, hevents⟩

end Follows

/-- A service that crashed stays so. -/
theorem Crashed.meet {v w : Service g} (h : v.Crashed) {occurrence : Occurrence}
    (hw : v.meet? occurrence = some w) : w.Crashed := by
  obtain ⟨message, h⟩ := h
  refine ⟨message, ?_⟩
  cases occurrence with
  | turn t =>
    cases turned_of_turn? hw with
    | work _ => exact h
    | receive hphase _ | hungUp hphase _ _ | begin hphase _ | finish hphase _ =>
      rw [h] at hphase
      cases hphase
    | join _ halive =>
      rw [h] at halive
      cases halive
  | sent event => simp [meet?, send?, h, Phase.isAlive] at hw
  | closed =>
    obtain rfl := Option.some.inj hw
    exact h

theorem Crashed.live {v w : Service g} (h : v.Crashed) {course : List Occurrence}
    (hw : v.live? course = some w) : w.Crashed := by
  induction course generalizing v with
  | nil =>
    obtain rfl := Option.some.inj hw
    exact h
  | cons occurrence rest ih =>
    obtain ⟨u, hu, hw⟩ := Option.bind_eq_some_iff.1 hw
    exact ih (h.meet hu) hw

/-- A course of a service keeps the accounts of what it has received. -/
theorem Follows.live {v w : Service g} {received : List Event} (h : v.Follows received)
    {course : List Occurrence} (hw : v.live? course = some w) :
    w.Crashed ∨ ∃ taken, taken ++ w.events = v.events ++ sent course ∧
      w.Follows (received ++ taken) := by
  induction course generalizing v received with
  | nil =>
    obtain rfl := Option.some.inj hw
    refine Or.inr ⟨[], ?_, ?_⟩
    · simp [sent]
    · rwa [List.append_nil]
  | cons occurrence rest ih =>
    obtain ⟨u, hu, hw⟩ := Option.bind_eq_some_iff.1 hw
    obtain hcrashed | ⟨taken, hevents, hfollows⟩ := h.meet hu
    · exact Or.inl (hcrashed.live hw)
    obtain hcrashed | ⟨taken', hevents', hfollows'⟩ := ih hfollows hw
    · exact Or.inl hcrashed
    refine Or.inr ⟨taken ++ taken', ?_, ?_⟩
    · rw [List.append_assoc, hevents', ← List.append_assoc, hevents, sent_cons, List.append_assoc]
    · rwa [← List.append_assoc]

/-- **A service reports on every loss once.** A service that has ended, and did not crash, has reported
on the actions of the losses that were sent before the first shutdown, if there was one: on each of
them, and as often as its losses were sent. -/
theorem reports_of_ended (s : Session) (events : List Event) {course : List Occurrence}
    {w : Service s.graph} (hw : (s.service events).live? course = some w) (hended : w.phase = .ended) :
    (w.reports.map Report.action).Perm (Event.heeded (events ++ sent course)) := by
  have hstart : (s.service events).Follows [] := .start rfl rfl rfl
  obtain ⟨message, hfailed⟩ | ⟨received, hevents, h⟩ := hstart.live hw
  · rw [hended] at hfailed
    cases hfailed
  have hsent : received ++ w.events = events ++ sent course := hevents
  rw [List.nil_append] at h
  -- nothing is in flight any more, so all that was received has been reported
  obtain ⟨due, hdue, -, hperm⟩ := h.balanced
  rw [h.idle hended] at hdue
  obtain rfl := List.map_eq_nil_iff.1 hdue.symm
  rw [List.map_nil, List.append_nil] at hperm
  rw [← hsent]
  obtain ⟨before, rfl, hbefore⟩ | ⟨hopen, -, hnone⟩ := h.ending (Or.inr hended)
  · rw [List.append_assoc, Event.heeded_append hbefore]
    rw [List.filterMap_append] at hperm
    exact hperm
  · rw [Event.heeded_append hopen, hnone, Event.heeded, List.takeWhile_nil, List.filterMap_nil,
      List.append_nil]
    exact hperm

/-- A session with an action that depends on nothing. -/
def lone : Session where
  graph :=
    { actions := Std.ExtTreeMap.ofList [((⟨"//f", 0⟩ : ActionKey), ({ key := ⟨"//f", 0⟩ } : Action))]
      artifacts := ∅
      producers := ∅
      treeOwners := ∅
      runfilesOwners := ∅
      extraNodes := ∅ }
  reporter := .log
  maxRewinds := 3

/-- The loss of nothing by an action. -/
def trifle (key : ActionKey) : Event := .lost key { message := "" }

/-- The computation at place `i` takes some steps. -/
def working (count i : Nat) : List Occurrence := List.replicate count (.turn (.work i))

/-- A course in which a loss is in flight when a build is announced, and two are when the service is
told to shut down; the later one of these ends first. A further loss is sent too late. -/
def busy : List Occurrence := List.flatten
  [[.sent (trifle ⟨"//f", 0⟩), .sent .buildStarted, .turn .receive, .turn .receive], working 5 0,
    [.turn (.join 0), .turn .begin, .sent (trifle ⟨"//f", 0⟩), .sent (trifle ⟨"//g", 0⟩),
      .turn .receive, .turn .receive, .sent .shutdown, .sent (trifle ⟨"//f", 0⟩), .turn .receive],
    working 2 1, [.turn (.join 1)], working 5 0, [.turn (.join 0), .turn .finish]]

theorem reports_of_ended_busy : ∃ w, (lone.service []).live? busy = some w ∧ w.phase = .ended ∧
    (w.reports.map Report.action).Perm (Event.heeded ([] ++ sent busy)) := by
  have hphase : ((lone.service []).live? busy).map Service.phase = some .ended := by decide +kernel
  obtain ⟨w, hw, hended⟩ := Option.map_eq_some_iff.1 hphase
  exact ⟨w, hw, hended, reports_of_ended lone [] hw hended⟩

example : Event.heeded ([] ++ sent busy) = [⟨"//f", 0⟩, ⟨"//f", 0⟩, ⟨"//g", 0⟩] := by decide +kernel

end Service

end Rewinding
