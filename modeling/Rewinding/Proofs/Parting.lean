import Mathlib.Data.List.Infix
import Rewinding.Diagnosis
import Rewinding.Proofs.Delivery
import Rewinding.Proofs.Errand
import Rewinding.Proofs.Trace

/-!
# A client and its service part

`Session.rewindOnce` settles the service whenever the client waits for it. An `Errand` has the client
and the service take their steps side by side, in any order, and a service that has come to its end lets
go of what it holds one thing after the other.

Whatever the order, an errand comes to its end, and with the same answer (`Session.answer_of_errand`).
Where the loss can be handled without a crash, that answer is the report. Where it cannot, the client is
left with a channel that nobody listens to any more: it waits until the service has let go of the reports,
which comes after letting go of the events, and then tells the service to shut down before it asks what
became of it. So the client never learns of the crash.
-/

namespace Rewinding

/-! ### Clients and services -/

/-- What a service holds. -/
inductive Errand.Held where
  /-- The end of a channel where events are received. -/
  | events
  /-- The end of a channel where reports are sent. -/
  | reports
  | jobs
  deriving DecidableEq, Repr

/-- All that a service holds, in the order in which it lets go of it. -/
def Errand.Held.all : List Held := [.events, .reports, .jobs]

/-- How far a client has come. -/
inductive Errand.Stage where
  | announcing
  | telling
  | awaiting
  /-- It has stopped waiting, and tells the service to shut down. -/
  | leaving (report : Option Report)
  /-- It waits for the end of the service. -/
  | joining (report : Option Report)
  | returned (answer : Except NoReport Report)

/-- How many steps a client takes at most. -/
def Errand.Stage.steps : Stage → Nat
  | .announcing => 5
  | .telling => 4
  | .awaiting => 3
  | .leaving _ => 2
  | .joining _ => 1
  | .returned _ => 0

def Errand.Stage.hasReturned : Stage → Bool
  | .returned _ => true
  | _ => false

/-- A client that reports one loss, and its service. -/
structure Errand (g : Graph) (key : ActionKey) (loss : Loss) where
  service : Service g
  stage : Errand.Stage := .announcing
  held : List Errand.Held := Errand.Held.all

/-- The service with one more event to receive. -/
def Service.queue {g : Graph} (v : Service g) (event : Event) : Service g :=
  { v with events := v.events ++ [event] }

namespace Errand

variable {g : Graph} {key : ActionKey} {loss : Loss}

/-- The client sends an event and comes to `stage`, or gives up where nobody can receive it. -/
def send (e : Errand g key loss) (event : Event) (stage : Stage) : Errand g key loss :=
  if .events ∈ e.held then { e with service := e.service.queue event, stage }
  else { e with stage := .returned (.error .gone) }

/-- What a client that has received `report` returns when the service is over. -/
def answer (phase : Phase) (report : Option Report) : Except NoReport Report :=
  match phase, report with
  | .failed message, _ => .error (.crashed message)
  | _, some report => .ok report
  | _, none => .error .silent

/-- The next step of the client, unless it has to wait. -/
def proceed? (e : Errand g key loss) : Option (Errand g key loss) :=
  match e.stage with
  | .announcing => some (e.send .buildStarted .telling)
  | .telling => some (e.send (.lost key loss) .awaiting)
  | .awaiting =>
    match e.service.reports with
    | report :: _ => some { e with stage := .leaving (some report) }
    | [] => if .reports ∈ e.held then none else some { e with stage := .leaving none }
  | .leaving report => some (e.send .shutdown (.joining report))
  | .joining report =>
    if e.held = [] then some { e with stage := .returned (answer e.service.phase report) } else none
  | .returned _ => none

/-- A step of an errand. -/
inductive Move where
  | client
  | service (turn : Service.Turn)
  /-- A service that has come to its end lets go of what it holds next. -/
  | release
  deriving DecidableEq, Repr

/-- What comes of a step, if it is possible now. -/
def move? (e : Errand g key loss) : Move → Option (Errand g key loss)
  | .client => e.proceed?
  | .service turn => (e.service.turn? turn).map fun v => { e with service := v }
  | .release =>
    if e.service.phase.isAlive then none
    else match e.held with
      | [] => none
      | _ :: held => some { e with held }

/-- What comes of some steps, one after another. -/
def play? (e : Errand g key loss) : List Move → Option (Errand g key loss)
  | [] => some e
  | move :: moves => (e.move? move).bind fun e' => e'.play? moves

/-- A run after which the client has returned, if that is what comes of it. -/
theorem exists_of_play? {e : Errand g key loss} {moves : List Move} {phase : Phase}
    (h : (e.play? moves).map (fun e' => (e'.service.phase, e'.stage.hasReturned)) = some (phase, true)) :
    ∃ e' answer, e.play? moves = some e' ∧ e'.service.phase = phase ∧ e'.stage = .returned answer := by
  obtain ⟨e', he, h⟩ := Option.map_eq_some_iff.1 h
  obtain ⟨hphase, hreturned⟩ := Prod.mk.inj h
  cases hstage : e'.stage with
  | returned answer => exact ⟨e', answer, he, hphase, hstage⟩
  | announcing | telling | awaiting | leaving _ | joining _ =>
    rw [hstage] at hreturned
    cases hreturned

end Errand

namespace Session

variable {s : Session} {key : ActionKey} {loss : Loss}

/-- The errand of a client with a loss, and of a new service. -/
def errand (s : Session) (key : ActionKey) (loss : Loss) : Errand s.graph key loss where
  service := s.service []

/-! ### How far a service has come -/

/-- The computation for the loss. -/
def errandJob (s : Session) (key : ActionKey) (loss : Loss) :
    Procedure s.graph.roster (Except String Report) :=
  (s.service []).job key loss

/-- What the computation for the loss ends with, in a new build. -/
def errandEnd (s : Session) (key : ActionKey) (loss : Loss) : Except String Report × Build :=
  (s.errandJob key loss).run (Build.world s.graph s.reporter) s.build.begin

/-- How many steps that takes. -/
def errandSteps (s : Session) (key : ActionKey) (loss : Loss) : Nat :=
  ((s.errandJob key loss).trace (Build.world s.graph s.reporter) s.build.begin).length

/-- A service of the session. -/
def serving (s : Session) (build : Build) (phase : Phase)
    (jobs : List (Procedure s.graph.roster (Except String Report))) (events : List Event)
    (reports : List Report) : Service s.graph :=
  { reporter := s.reporter, maxRewinds := s.maxRewinds, build, phase, jobs, events, reports }

/-- How far a service may have come to which some events were sent, and how many turns at most it takes
from there. -/
inductive Serving (s : Session) (key : ActionKey) (loss : Loss) :
    List Event → Nat → Service s.graph → Prop where
  | waiting {events : List Event} : events <+: [.buildStarted, .lost key loss] →
      s.Serving key loss events (s.errandSteps key loss + 7)
        (s.serving s.build .listening [] events [])
  | announced {events : List Event} : events <+: [.lost key loss] →
      s.Serving key loss (.buildStarted :: events)
        (s.errandSteps key loss + 6) (s.serving s.build .starting [] events [])
  | begun {events : List Event} : events <+: [.lost key loss] →
      s.Serving key loss (.buildStarted :: events)
        (s.errandSteps key loss + 5) (s.serving s.build.begin .listening [] events [])
  /-- What is left of the computation ends as the whole does. -/
  | handling {job : Procedure s.graph.roster (Except String Report)} {b : Build} :
      job.run (Build.world s.graph s.reporter) b = s.errandEnd key loss →
      s.Serving key loss [.buildStarted, .lost key loss]
        ((job.trace (Build.world s.graph s.reporter) b).length + 4)
        (s.serving b .listening [job] [] [])
  | reported {report : Report} {events : List Event} : (s.errandEnd key loss).1 = .ok report →
      events <+: [.shutdown] → s.Serving key loss (.buildStarted :: .lost key loss :: events) 3
        (s.serving (s.errandEnd key loss).2 .listening [] events [report])
  | closing {report : Report} : (s.errandEnd key loss).1 = .ok report →
      s.Serving key loss [.buildStarted, .lost key loss, .shutdown] 2
        (s.serving (s.errandEnd key loss).2 .closing [] [] [report])
  | ended {report : Report} : (s.errandEnd key loss).1 = .ok report →
      s.Serving key loss [.buildStarted, .lost key loss, .shutdown] 1
        (s.serving (s.errandEnd key loss).2 .ended [] [] [report])
  | failed {message : String} : (s.errandEnd key loss).1 = .error message →
      s.Serving key loss [.buildStarted, .lost key loss] 0
        (s.serving (s.errandEnd key loss).2 (.failed message) [] [] [])

theorem eq_of_getElem?_singleton {α : Type} {x y : α} {i : Nat} (h : [x][i]? = some y) :
    i = 0 ∧ x = y := by
  cases i with
  | zero => exact ⟨rfl, Option.some.inj h⟩
  | succ i => cases h

namespace Serving

variable {sent : List Event} {n : Nat} {v w : Service s.graph}

/-- Only a service that has not come to its end takes turns. -/
theorem isAlive_of_turn (h : s.Serving key loss sent n v) {turn : Service.Turn}
    (hw : v.turn? turn = some w) : v.phase.isAlive = true := by
  have ht := Service.turned_of_turn? hw
  cases h with
  | waiting _ | announced _ | begun _ | handling _ | reported _ _ | closing _ => rfl
  | ended _ | failed _ =>
    cases ht with
    | work hi | join hi _ => cases hi
    | receive hphase _ | hungUp hphase _ _ | begin hphase _ | finish hphase _ => cases hphase

/-- **A turn takes a service further**, and leaves what was reported. -/
theorem turn (h : s.Serving key loss sent n v) {turn : Service.Turn} (hw : v.turn? turn = some w) :
    (∃ m < n, s.Serving key loss sent m w) ∧ (v.reports ≠ [] → w.reports = v.reports) := by
  have halive := h.isAlive_of_turn hw
  have ht := Service.turned_of_turn? hw
  cases h with
  | waiting hevents =>
    refine ⟨?_, fun hr => absurd rfl hr⟩
    cases ht with
    | receive _ he =>
      obtain rfl := he
      obtain ⟨rfl, hrest⟩ := List.cons_prefix_cons.1 hevents
      exact ⟨_, by omega, .announced hrest⟩
    | hungUp _ _ hc => cases hc
    | work hi | join hi _ => cases hi
    | begin hphase _ | finish hphase _ => cases hphase
  | announced hevents =>
    refine ⟨?_, fun hr => absurd rfl hr⟩
    cases ht with
    | begin _ _ => exact ⟨_, by omega, .begun hevents⟩
    | work hi | join hi _ => cases hi
    | receive hphase _ | hungUp hphase _ _ | finish hphase _ => cases hphase
  | begun hevents =>
    refine ⟨?_, fun hr => absurd rfl hr⟩
    cases ht with
    | receive _ he =>
      obtain rfl := he
      obtain ⟨rfl, hrest⟩ := List.cons_prefix_cons.1 hevents
      obtain rfl := List.prefix_nil.1 hrest
      exact ⟨s.errandSteps key loss + 4, by omega, .handling rfl⟩
    | hungUp _ _ hc => cases hc
    | work hi | join hi _ => cases hi
    | begin hphase _ | finish hphase _ => cases hphase
  | @handling job b hrun =>
    refine ⟨?_, fun hr => absurd rfl hr⟩
    cases ht with
    | receive _ he => cases he
    | hungUp _ _ hc => cases hc
    | @work i step next hi =>
      obtain ⟨rfl, rfl⟩ := eq_of_getElem?_singleton hi
      exact ⟨_, Nat.lt_succ_self _, .handling hrun⟩
    | @join i result hi _ =>
      obtain ⟨rfl, rfl⟩ := eq_of_getElem?_singleton hi
      -- nothing is left of the computation, so this is how the whole ends
      have hend : (result, b) = s.errandEnd key loss := hrun
      obtain rfl : (s.errandEnd key loss).2 = b := by rw [← hend]
      have hresult : (s.errandEnd key loss).1 = result := by rw [← hend]
      cases result with
      | ok report => exact ⟨3, by omega, .reported hresult List.nil_prefix⟩
      | error message => exact ⟨0, by omega, .failed hresult⟩
    | begin hphase _ | finish hphase _ => cases hphase
  | reported hend hevents =>
    cases ht with
    | receive _ he =>
      obtain rfl := he
      obtain ⟨rfl, hrest⟩ := List.cons_prefix_cons.1 hevents
      obtain rfl := List.prefix_nil.1 hrest
      exact ⟨⟨2, by omega, .closing hend⟩, fun _ => rfl⟩
    | hungUp _ _ hc => cases hc
    | work hi | join hi _ => cases hi
    | begin hphase _ | finish hphase _ => cases hphase
  | closing hend =>
    cases ht with
    | finish _ _ => exact ⟨⟨1, by omega, .ended hend⟩, fun _ => rfl⟩
    | work hi | join hi _ => cases hi
    | receive hphase _ | hungUp hphase _ _ | begin hphase _ => cases hphase
  | ended _ | failed _ => cases halive

/-! ### What clients know of a service -/

/-- As long as it was not told of a loss, a service has not come to its end. -/
theorem isAlive_of_sent (h : s.Serving key loss sent n v) (hsent : sent <+: [.buildStarted]) :
    v.phase.isAlive = true := by
  cases h with
  | waiting _ | announced _ | begun _ | handling _ | reported _ _ | closing _ => rfl
  | ended _ | failed _ => simp at hsent

theorem eq_ok_of_reports (h : s.Serving key loss sent n v) {report : Report} {reports : List Report}
    (hr : v.reports = report :: reports) :
    (s.errandEnd key loss).1 = .ok report ∧ v.reports = [report] := by
  cases h with
  | waiting _ | announced _ | begun _ | handling _ | failed _ => cases hr
  | reported hend _ | closing hend | ended hend =>
    cases hr
    exact ⟨hend, rfl⟩

/-- A service that comes to its end before it is told to has failed. -/
theorem eq_error_of_not_isAlive (h : s.Serving key loss [.buildStarted, .lost key loss] n v)
    (halive : ¬v.phase.isAlive = true) : ∃ message, (s.errandEnd key loss).1 = .error message ∧
      v.phase = .failed message ∧ v.build = (s.errandEnd key loss).2 := by
  cases h with
  | waiting _ | announced _ | begun _ | handling _ | reported _ _ => exact absurd rfl halive
  | failed hend => exact ⟨_, hend, rfl, rfl⟩

/-- A service that was told to shut down ends without a failure. -/
theorem eq_ok_of_not_isAlive
    (h : s.Serving key loss [.buildStarted, .lost key loss, .shutdown] n v)
    (halive : ¬v.phase.isAlive = true) : v.phase = .ended ∧ v.build = (s.errandEnd key loss).2 := by
  cases h with
  | waiting _ | announced _ | begun _ | reported _ _ | closing _ => exact absurd rfl halive
  | ended hend => exact ⟨rfl, rfl⟩

/-! ### What clients send -/

theorem queue_buildStarted (h : s.Serving key loss [] n v) :
    s.Serving key loss [.buildStarted] n (v.queue .buildStarted) := by
  cases h with
  | waiting _ => exact .waiting (by simp)

theorem queue_lost (h : s.Serving key loss [.buildStarted] n v) :
    s.Serving key loss [.buildStarted, .lost key loss] n (v.queue (.lost key loss)) := by
  cases h with
  | waiting _ => exact .waiting (List.prefix_refl _)
  | announced _ => exact .announced (List.prefix_refl _)
  | begun _ => exact .begun (List.prefix_refl _)

/-- A service that has reported, and was not told to shut down, can be told so. -/
theorem queue_shutdown (h : s.Serving key loss [.buildStarted, .lost key loss] n v)
    (hr : v.reports ≠ []) : v.phase.isAlive = true ∧
      s.Serving key loss [.buildStarted, .lost key loss, .shutdown] n (v.queue .shutdown) := by
  cases h with
  | waiting _ | announced _ | begun _ | handling _ | failed _ => exact absurd rfl hr
  | reported hend _ => exact ⟨rfl, .reported hend (List.prefix_refl _)⟩

/-- A service that was told of a loss can take a turn, unless it has reported and waits to be told more,
or has come to its end. -/
theorem exists_turn {rest : List Event}
    (h : s.Serving key loss (.buildStarted :: .lost key loss :: rest) n v) :
    (∃ turn w, v.turn? turn = some w) ∨ rest = [] ∧ v.reports ≠ [] ∨ ¬v.phase.isAlive = true := by
  cases h with
  | waiting _ => exact Or.inl ⟨.receive, _, rfl⟩
  | announced _ => exact Or.inl ⟨.begin, _, rfl⟩
  | begun _ => exact Or.inl ⟨.receive, _, rfl⟩
  | @handling job b _ =>
    cases job with
    | done result => exact Or.inl ⟨.join 0, _, rfl⟩
    | ask step next => exact Or.inl ⟨.work 0, _, rfl⟩
  | reported _ _ =>
    cases rest with
    | nil => exact Or.inr (Or.inl ⟨rfl, List.cons_ne_nil _ _⟩)
    | cons event rest => exact Or.inl ⟨.receive, _, rfl⟩
  | closing _ => exact Or.inl ⟨.finish, _, rfl⟩
  | ended _ | failed _ => exact Or.inr (Or.inr nofun)

end Serving

end Session

/-! ### How an errand goes -/

namespace Errand

variable {s : Session} {key : ActionKey} {loss : Loss} {e e' : Errand s.graph key loss} {left : Nat}

/-- What a service lets go of before the reports it has let go of when these are gone. -/
theorem events_notMem {held : List Held} (h : held <:+ Held.all) (hr : .reports ∉ held) :
    .events ∉ held := by
  have hall : ∀ held ∈ Held.all.tails, .reports ∉ held → Held.events ∉ held := by decide
  exact hall held ((List.mem_tails _ _).2 h) hr

/-- What a client at some stage has sent, and what it knows. -/
inductive Abreast (s : Session) (key : ActionKey) (loss : Loss) :
    Stage → List Held → List Event → Service s.graph → Prop where
  | announcing {held : List Held} {v : Service s.graph} : Abreast s key loss .announcing held [] v
  | telling {held : List Held} {v : Service s.graph} :
      Abreast s key loss .telling held [.buildStarted] v
  | awaiting {held : List Held} {v : Service s.graph} :
      Abreast s key loss .awaiting held [.buildStarted, .lost key loss] v
  | leaving {report : Report} {held : List Held} {v : Service s.graph} : v.reports = [report] →
      Abreast s key loss (.leaving (some report)) held [.buildStarted, .lost key loss] v
  /-- The service has let go of the reports without sending any. -/
  | deserted {held : List Held} {v : Service s.graph} : .reports ∉ held →
      Abreast s key loss (.leaving none) held [.buildStarted, .lost key loss] v
  | joining {report : Report} {held : List Held} {v : Service s.graph} : v.reports = [report] →
      Abreast s key loss (.joining (some report)) held [.buildStarted, .lost key loss, .shutdown] v
  | returned {report : Report} {v : Service s.graph} : v.reports = [report] →
      Abreast s key loss (.returned (.ok report)) [] [.buildStarted, .lost key loss, .shutdown] v
  | gone {held : List Held} {v : Service s.graph} : .events ∉ held →
      Abreast s key loss (.returned (.error .gone)) held [.buildStarted, .lost key loss] v

namespace Abreast

variable {stage : Stage} {held held' : List Held} {sent : List Event} {v w : Service s.graph}

/-- What a client knows remains so as long as the service keeps its reports. -/
theorem of_reports (h : Abreast s key loss stage held sent v)
    (hr : v.reports ≠ [] → w.reports = v.reports) : Abreast s key loss stage held sent w := by
  have hkeep : ∀ report, v.reports = [report] → w.reports = [report] := by
    intro report hv
    rw [hr (by rw [hv]; exact List.cons_ne_nil _ _), hv]
  cases h with
  | announcing => exact .announcing
  | telling => exact .telling
  | awaiting => exact .awaiting
  | leaving hv => exact .leaving (hkeep _ hv)
  | deserted hd => exact .deserted hd
  | joining hv => exact .joining (hkeep _ hv)
  | returned hv => exact .returned (hkeep _ hv)
  | gone hd => exact .gone hd

/-- What a service has let go of it does not hold again. -/
theorem of_subset (h : Abreast s key loss stage held sent v) (hsub : held' ⊆ held) :
    Abreast s key loss stage held' sent v := by
  cases h with
  | announcing => exact .announcing
  | telling => exact .telling
  | awaiting => exact .awaiting
  | leaving hv => exact .leaving hv
  | deserted hd => exact .deserted fun hmem => hd (hsub hmem)
  | joining hv => exact .joining hv
  | returned hv =>
    obtain rfl := List.subset_nil.1 hsub
    exact .returned hv
  | gone hd => exact .gone fun hmem => hd (hsub hmem)

end Abreast

/-- The client and the service of an errand agree on how far they have come. There are at most `left`
steps to go. -/
structure Underway (s : Session) (key : ActionKey) (loss : Loss) (e : Errand s.graph key loss)
    (left : Nat) : Prop where
  suffix : e.held <:+ Held.all
  /-- Only a service that has come to its end lets go of anything. -/
  whole : e.service.phase.isAlive = true → e.held = Held.all
  abreast : ∃ sent turns, s.Serving key loss sent turns e.service ∧
    Abreast s key loss e.stage e.held sent e.service ∧ left = e.stage.steps + turns + e.held.length

theorem underway_errand (s : Session) (key : ActionKey) (loss : Loss) :
    Underway s key loss (s.errand key loss) (s.errandSteps key loss + 15) where
  suffix := List.suffix_refl _
  whole _ := rfl
  abreast := ⟨[], _, .waiting List.nil_prefix, .announcing, by
    show _ = 5 + (_ + 7) + 3
    omega⟩

namespace Underway

theorem turn (h : Underway s key loss e left) {turn : Service.Turn} {v : Service s.graph}
    (hv : e.service.turn? turn = some v) :
    ∃ left' < left, Underway s key loss { e with service := v } left' := by
  obtain ⟨sent, n, hserving, hab, rfl⟩ := h.abreast
  obtain ⟨⟨m, hm, hserving'⟩, hreports⟩ := hserving.turn hv
  refine ⟨e.stage.steps + m + e.held.length, by omega, h.suffix, ?_, sent, m, hserving', ?_, rfl⟩
  · intro _
    exact h.whole (hserving.isAlive_of_turn hv)
  · exact hab.of_reports hreports

theorem release (h : Underway s key loss e left) {held : List Held} {x : Held}
    (hheld : e.held = x :: held) (halive : ¬e.service.phase.isAlive = true) :
    ∃ left' < left, Underway s key loss { e with held } left' := by
  obtain ⟨sent, n, hserving, hab, rfl⟩ := h.abreast
  have hsuffix := h.suffix
  rw [hheld] at hsuffix hab
  refine ⟨e.stage.steps + n + held.length, ?_, ?_, fun hw => absurd hw halive, sent, n, hserving, ?_, rfl⟩
  · rw [hheld, List.length_cons]
    omega
  · exact (List.suffix_cons x held).trans hsuffix
  · exact hab.of_subset (List.subset_cons_self x held)

/-- What is sent to a service that has not come to its end can be received. -/
theorem send_of_isAlive (h : Underway s key loss e left) (halive : e.service.phase.isAlive = true)
    (event : Event) (stage : Stage) :
    e.send event stage = { e with service := e.service.queue event, stage } := by
  unfold send
  rw [h.whole halive]
  rfl

/-- It is enough that the client has fewer steps to go, and the service no more turns. -/
theorem advance {v : Service s.graph} {stage stage' : Stage} {held : List Held} {sent : List Event}
    {n : Nat} (hsteps : stage'.steps < stage.steps) (hsuffix : held <:+ Held.all)
    (hwhole : v.phase.isAlive = true → held = Held.all) (hserving : s.Serving key loss sent n v)
    (hab : Abreast s key loss stage' held sent v) :
    ∃ left' < stage.steps + n + held.length, Underway s key loss ⟨v, stage', held⟩ left' :=
  ⟨stage'.steps + n + held.length, by omega, hsuffix, hwhole, sent, n, hserving, hab, rfl⟩

/-- **A step of the client takes an errand further.** -/
theorem client (h : Underway s key loss e left) (he : e.proceed? = some e') :
    ∃ left' < left, Underway s key loss e' left' := by
  obtain ⟨sent, n, hserving, hab, rfl⟩ := h.abreast
  have hsuffix := h.suffix
  have hwhole := h.whole
  have hsend := h.send_of_isAlive
  obtain ⟨service, stage, held⟩ := e
  simp only at hserving hab hsuffix hwhole hsend ⊢
  cases hab with
  | announcing =>
    obtain rfl : send _ .buildStarted .telling = e' := Option.some.inj he
    rw [hsend (hserving.isAlive_of_sent List.nil_prefix)]
    exact advance (by simp [Stage.steps]) hsuffix hwhole hserving.queue_buildStarted .telling
  | telling =>
    obtain rfl : send _ (.lost key loss) .awaiting = e' := Option.some.inj he
    rw [hsend (hserving.isAlive_of_sent (List.prefix_refl _))]
    exact advance (by simp [Stage.steps]) hsuffix hwhole hserving.queue_lost .awaiting
  | awaiting =>
    simp only [proceed?] at he
    split at he
    case h_1 report _ hr =>
      obtain rfl := Option.some.inj he
      obtain ⟨-, hr⟩ := hserving.eq_ok_of_reports hr
      exact advance (by simp [Stage.steps]) hsuffix hwhole hserving (.leaving hr)
    case h_2 =>
      split at he
      case isTrue => cases he
      case isFalse hgone =>
        obtain rfl := Option.some.inj he
        exact advance (by simp [Stage.steps]) hsuffix hwhole hserving (.deserted hgone)
  | @leaving report _ _ hr =>
    obtain ⟨halive, hserving'⟩ := hserving.queue_shutdown (by rw [hr]; exact List.cons_ne_nil _ _)
    obtain rfl : send _ .shutdown (.joining (some report)) = e' := Option.some.inj he
    rw [hsend halive]
    exact advance (by simp [Stage.steps]) hsuffix hwhole hserving' (.joining hr)
  | deserted hgone =>
    -- the events are gone as well, so that the shutdown cannot be sent
    have hevents := events_notMem hsuffix hgone
    simp only [proceed?, send, if_neg hevents, Option.some.injEq] at he
    obtain rfl := he
    exact advance (by simp [Stage.steps]) hsuffix hwhole hserving (.gone hevents)
  | @joining report _ _ hr =>
    simp only [proceed?] at he
    split at he
    case isFalse => cases he
    case isTrue hheld =>
      subst hheld
      have hdead : ¬service.phase.isAlive = true := fun halive => absurd (hwhole halive) (by decide)
      obtain ⟨hphase, -⟩ := hserving.eq_ok_of_not_isAlive hdead
      rw [hphase] at he
      obtain rfl := Option.some.inj he
      exact advance (by simp [Stage.steps]) hsuffix hwhole hserving (.returned hr)
  | returned _ | gone _ => cases he

/-- **A step takes an errand further.** -/
theorem move (h : Underway s key loss e left) {move : Move} (he : e.move? move = some e') :
    ∃ left' < left, Underway s key loss e' left' := by
  cases move with
  | client => exact h.client he
  | service turn =>
    obtain ⟨v, hv, rfl⟩ := Option.map_eq_some_iff.1 he
    exact h.turn hv
  | release =>
    simp only [move?] at he
    split at he
    case isTrue => cases he
    case isFalse halive =>
      split at he
      case h_1 => cases he
      case h_2 x held hheld =>
        obtain rfl := Option.some.inj he
        exact h.release hheld halive

/-- **A run takes an errand further by each of its steps.** -/
theorem play (h : Underway s key loss e left) {moves : List Move} (he : e.play? moves = some e') :
    ∃ left', moves.length + left' ≤ left ∧ Underway s key loss e' left' := by
  induction moves generalizing e left with
  | nil =>
    obtain rfl := Option.some.inj he
    exact ⟨left, by simp, h⟩
  | cons move moves ih =>
    obtain ⟨e₁, he₁, he⟩ := Option.bind_eq_some_iff.1 he
    obtain ⟨left₁, hlt, h₁⟩ := h.move he₁
    obtain ⟨left', hle, h'⟩ := ih h₁ he
    refine ⟨left', ?_, h'⟩
    rw [List.length_cons]
    omega

end Underway

theorem exists_move_of_turn (h : ∃ turn v, e.service.turn? turn = some v) :
    ∃ move e', e.move? move = some e' := by
  obtain ⟨turn, v, hv⟩ := h
  refine ⟨.service turn, { e with service := v }, ?_⟩
  rw [move?, hv]
  rfl

theorem exists_move_of_held (halive : ¬e.service.phase.isAlive = true) (hheld : e.held ≠ []) :
    ∃ move e', e.move? move = some e' := by
  obtain ⟨x, held, hcons⟩ := List.exists_cons_of_ne_nil hheld
  refine ⟨.release, { e with held }, ?_⟩
  rw [move?, if_neg halive, hcons]

/-- **An errand does not get stuck.** Until the client has returned, it can go on, or the service can. -/
theorem Underway.exists_move (h : Underway s key loss e left) :
    (∃ answer, e.stage = .returned answer) ∨ ∃ move e', e.move? move = some e' := by
  obtain ⟨sent, n, hserving, hab, -⟩ := h.abreast
  obtain ⟨service, stage, held⟩ := e
  simp only at hserving hab
  cases hab with
  | announcing | telling | leaving _ | deserted _ => exact Or.inr ⟨.client, _, rfl⟩
  | awaiting =>
    right
    rcases hserving.exists_turn with hturn | ⟨-, hr⟩ | halive
    · exact exists_move_of_turn hturn
    · obtain ⟨report, reports, hr⟩ := List.exists_cons_of_ne_nil hr
      exact ⟨.client, ⟨service, .leaving (some report), held⟩, by simp only [move?, proceed?, hr]⟩
    · by_cases hheld : held = []
      · subst hheld
        cases hr : service.reports with
        | nil => exact ⟨.client, ⟨service, .leaving none, []⟩, by simp [move?, proceed?, hr]⟩
        | cons report reports =>
          exact ⟨.client, ⟨service, .leaving (some report), []⟩, by simp only [move?, proceed?, hr]⟩
      · exact exists_move_of_held halive hheld
  | joining _ =>
    right
    rcases hserving.exists_turn with hturn | ⟨hrest, -⟩ | halive
    · exact exists_move_of_turn hturn
    · cases hrest
    · by_cases hheld : held = []
      · subst hheld
        exact ⟨.client, _, rfl⟩
      · exact exists_move_of_held halive hheld
  | returned _ | gone _ => exact Or.inl ⟨_, rfl⟩

/-- What a client returns is the report of a service that has ended, or that it found nobody, after the
service has failed. -/
theorem Underway.eq_of_returned (h : Underway s key loss e left) {answer : Except NoReport Report}
    (ha : e.stage = .returned answer) : e.service.build = (s.errandEnd key loss).2 ∧
      ((∃ message, (s.errandEnd key loss).1 = .error message ∧ e.service.phase = .failed message ∧
        answer = .error .gone) ∨
      ∃ report, (s.errandEnd key loss).1 = .ok report ∧ e.service.phase = .ended ∧
        e.service.reports = [report] ∧ answer = .ok report) := by
  obtain ⟨sent, n, hserving, hab, -⟩ := h.abreast
  have hwhole := h.whole
  obtain ⟨service, stage, held⟩ := e
  simp only at hserving hab hwhole ha ⊢
  subst ha
  cases hab with
  | returned hr =>
    have halive : ¬service.phase.isAlive = true := fun halive => absurd (hwhole halive) (by decide)
    obtain ⟨hphase, hbuild⟩ := hserving.eq_ok_of_not_isAlive halive
    obtain ⟨hend, -⟩ := hserving.eq_ok_of_reports hr
    exact ⟨hbuild, Or.inr ⟨_, hend, hphase, hr, rfl⟩⟩
  | gone hevents =>
    have halive : ¬service.phase.isAlive = true := by
      intro halive
      rw [hwhole halive] at hevents
      exact hevents (by decide)
    obtain ⟨message, hend, hphase, hbuild⟩ := hserving.eq_error_of_not_isAlive halive
    exact ⟨hbuild, Or.inl ⟨message, hend, hphase, rfl⟩⟩

end Errand

namespace Session

/-- The computation for the loss ends with what the handling of the loss comes to in a new build. -/
theorem errandEnd_eq (s : Session) (key : ActionKey) (loss : Loss) : s.errandEnd key loss =
    ((Stop.split (s.begun.handle key loss).1).map (Report.mk key), (s.begun.handle key loss).2.build) :=
  (s.service []).run_job key loss s.build.begin

/-- **What an errand brings back.** The client and the service may take their steps in any order: the errand
comes to an end, and the answer is always the same. If the handling of the loss in a new build ends with a
result, be it a failure, the service has reported that and nothing else, and ended, and the client returns
the report. If it crashes, the service has failed with the text of the crash; but the client only returns
that nobody listens to it any more. The build is left as the handling leaves it. -/
theorem answer_of_errand (s : Session) (key : ActionKey) (loss : Loss) :
    (∃ most, ∀ moves e, (s.errand key loss).play? moves = some e → moves.length ≤ most ∧
      ((∃ answer, e.stage = .returned answer) ∨ ∃ move e', e.move? move = some e')) ∧
    ∀ moves e answer, (s.errand key loss).play? moves = some e → e.stage = .returned answer →
      (s.rewindOnce key loss false).1 = answer ∧
      e.service.build = (s.begun.handle key loss).2.build ∧
      ((∃ message, Stop.split (s.begun.handle key loss).1 = .error message ∧
        e.service.phase = .failed message ∧ answer = .error .gone) ∨
      ∃ result, Stop.split (s.begun.handle key loss).1 = .ok result ∧ e.service.phase = .ended ∧
        e.service.reports = [⟨key, result⟩] ∧ answer = .ok ⟨key, result⟩) := by
  have hstart := Errand.underway_errand s key loss
  constructor
  · refine ⟨s.errandSteps key loss + 15, fun moves e he => ?_⟩
    obtain ⟨left, hle, h⟩ := hstart.play he
    exact ⟨Nat.le_trans (Nat.le_add_right _ _) hle, h.exists_move⟩
  · intro moves e answer he ha
    obtain ⟨left, -, h⟩ := hstart.play he
    obtain ⟨hbuild, hanswer⟩ := h.eq_of_returned ha
    rw [rewindOnce_fst]
    rw [errandEnd_eq] at hbuild hanswer
    cases hsplit : Stop.split (s.begun.handle key loss).1 with
    | error message =>
      rw [hsplit] at hanswer
      rcases hanswer with ⟨message', he, hphase, rfl⟩ | ⟨report, he, -⟩
      · obtain rfl := Except.error.inj he
        exact ⟨rfl, hbuild, Or.inl ⟨_, rfl, hphase, rfl⟩⟩
      · cases he
    | ok result =>
      rw [hsplit] at hanswer
      rcases hanswer with ⟨message, he, -⟩ | ⟨report, he, hphase, hreports, rfl⟩
      · cases he
      · obtain rfl := Except.ok.inj he
        exact ⟨rfl, hbuild, Or.inr ⟨result, rfl, hphase, hreports, rfl⟩⟩

end Session

/-- The client has told of a loss, and the service has handled it in five steps. -/
def Errand.told : List Move :=
  [.client, .client, .service .receive, .service .begin, .service .receive] ++
    List.replicate 5 (.service (.work 0)) ++ [.service (.join 0)]

/-- The client takes the report, and the service ends when it is told to. -/
def Errand.served : List Move :=
  told ++ [.client, .client, .service .receive, .service .finish] ++ List.replicate 3 .release ++ [.client]

theorem Session.answer_of_errand_lone : ∃ e result,
    (Service.lone.errand ⟨"//f", 0⟩ { message := "" }).play? Errand.served = some e ∧
    e.stage = .returned (.ok ⟨⟨"//f", 0⟩, result⟩) ∧
    Stop.split (Service.lone.begun.handle ⟨"//f", 0⟩ { message := "" }).1 = .ok result := by
  have hend : ((Service.lone.errand ⟨"//f", 0⟩ { message := "" }).play? Errand.served).map
      (fun e => (e.service.phase, e.stage.hasReturned)) = some (.ended, true) := by decide +kernel
  obtain ⟨e, answer, he, hphase, ha⟩ := Errand.exists_of_play? hend
  obtain ⟨-, -, hanswer⟩ := (answer_of_errand _ _ _).2 Errand.served e answer he ha
  rcases hanswer with ⟨message, -, hfailed, -⟩ | ⟨result, hresult, -, -, rfl⟩
  · rw [hphase] at hfailed
    cases hfailed
  · exact ⟨e, result, he, ha, hresult⟩

/-- An action reads a source, and reports of defects end computations. -/
def Config.reading : Config where
  settings := { reportMode := .panic }
  artifacts := ∅
  actions := Std.ExtTreeMap.ofList
    [((⟨"//f", 0⟩ : ActionKey), ({ inputs := ["s"] } : ActionSection))]
  makers := ∅
  expansions := ∅

/-- The source is lost, as if it were a member of something. -/
def Loss.disowned : Loss := .ofEntries "lost" [("1", .virtual "s")] ∅

/-- The service fails, and lets go of the events and the reports while the client waits. -/
def Errand.untold : List Move := told ++ [.release, .release, .client, .client]

/-- The client of a service that has failed need not learn why. -/
theorem Session.crash_untold : ∃ e,
    ((Diagnosis.sessionOf .reading).errand ⟨"//f", 0⟩ .disowned).play? Errand.untold = some e ∧
    e.service.phase = .failed ("bug report: " ++ (Failure.virtualDependency "s" ⟨"//f", 0⟩).message) ∧
    e.stage = .returned (.error .gone) := by
  have hend : (((Diagnosis.sessionOf .reading).errand ⟨"//f", 0⟩ .disowned).play? Errand.untold).map
      (fun e => (e.service.phase, e.stage.hasReturned)) =
        some (.failed ("bug report: " ++ (Failure.virtualDependency "s" ⟨"//f", 0⟩).message), true) := by
    decide +kernel
  obtain ⟨e, answer, he, hphase, ha⟩ := Errand.exists_of_play? hend
  obtain ⟨left, -, h⟩ := (Errand.underway_errand _ _ _).play he
  rcases (h.eq_of_returned ha).2 with ⟨message, -, -, rfl⟩ | ⟨report, -, hended, -⟩
  · exact ⟨e, he, hphase, ha⟩
  · rw [hphase] at hended
    cases hended

end Rewinding
