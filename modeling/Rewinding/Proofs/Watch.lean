import Rewinding.Proofs.Delivery

/-!
# A service that is watched

A service does not say which loss a computation in flight handles, nor what it did before. A `Watch`
writes that down beside a service: the events received, the loss of each computation and of each
report, the builds begun, and every step that was taken, with its answer. To watch changes nothing
(`service_live?`).

The one who takes the reports may go away; then the first report that is to be sent ends the service.
That is an `Incident` besides the occurrences that a service sees itself.

`Met` says what each incident comes to, and `invariant_of_live?` is the induction along a course.
-/

namespace Rewinding

/-- A step that a computation has taken. -/
structure Deed (known : List Action) where
  /-- The place, among the events received, of the loss that the computation handles. -/
  loss : Nat
  /-- How many builds had begun. -/
  build : Nat
  step : Step known
  answer : step.Answer

/-- A service, and what was seen of it. -/
structure Watch (g : Graph) where
  service : Service g
  /-- Whether somebody takes the reports. -/
  heard : Bool := true
  /-- The events received, the earliest first. -/
  received : List Event := []
  /-- The places of the losses that the computations in flight handle. -/
  flights : List Nat := []
  /-- How many builds have begun. -/
  begun : Nat := 0
  /-- The reports, each with the place of its loss. -/
  reported : List (Nat × Report) := []
  /-- The steps that were taken, the earliest first. -/
  deeds : List (Deed g.roster) := []

open Service

/-- What happens to a watched service. -/
inductive Incident where
  | occurrence (occurrence : Occurrence)
  /-- Nobody takes reports any more. -/
  | deafened

def Incident.event? : Incident → Option Event
  | .occurrence o => o.event?
  | .deafened => none

/-- The text with which a service fails that cannot report what a computation ended with. -/
def failing : Except String Report → String
  | .ok _ => NoReport.gone.message
  | .error message => message

/-- What comes of a turn when nobody takes reports. -/
def Service.turnUnheard? {g : Graph} (v : Service g) : Turn → Option (Service g)
  | .join i =>
    match v.jobs[i]? with
    | some (.done result) =>
      if v.phase.isAlive then
        some { v with jobs := v.jobs.eraseIdx i, phase := .failed (failing result) }
      else none
    | _ => none
  | turn => v.turn? turn

namespace Watch

variable {g : Graph} {w w' : Watch g}

/-- Write down a turn that leaves the service as `v`. -/
def note (w : Watch g) (turn : Turn) (v : Service g) : Watch g :=
  match turn with
  | .receive =>
    match w.service.events with
    | event :: _ =>
      { w with
        service := v
        received := w.received ++ [event]
        flights := w.flights ++ event.lost?.toList.map fun _ => w.received.length }
    | [] => { w with service := v }
  | .work i =>
    match w.service.jobs[i]?, w.flights[i]? with
    | some (.ask step _), some n =>
      let answer := ((Build.world g w.service.reporter).answer step w.service.build).1
      { w with service := v, deeds := w.deeds ++ [⟨n, w.begun, step, answer⟩] }
    | _, _ => { w with service := v }
  | .join i =>
    match w.service.jobs[i]?, w.flights[i]? with
    | some (.done (.ok report)), some n =>
      { w with
        service := v
        flights := w.flights.eraseIdx i
        reported := if w.heard then w.reported ++ [(n, report)] else w.reported }
    | _, _ => { w with service := v, flights := w.flights.eraseIdx i }
  | .begin => { w with service := v, begun := w.begun + 1 }
  | .finish => { w with service := v }

/-- The service after a turn, if that is possible now. -/
def turn? (w : Watch g) (turn : Turn) : Option (Service g) :=
  if w.heard then w.service.turn? turn else w.service.turnUnheard? turn

/-- Where nothing is received, nothing is written down. -/
theorem note_of_events_nil (h : w.service.events = []) (v : Service g) :
    w.note .receive v = { w with service := v } := by
  unfold note
  simp only [h]

/-- What comes of an incident, if it is possible now. -/
def meet? (w : Watch g) : Incident → Option (Watch g)
  | .occurrence (.turn turn) => (w.turn? turn).map (w.note turn)
  | .occurrence occurrence => (w.service.meet? occurrence).map fun v => { w with service := v }
  | .deafened => some { w with heard := false }

/-- What comes of some incidents, one after another. -/
def live? (w : Watch g) : List Incident → Option (Watch g)
  | [] => some w
  | incident :: rest => (w.meet? incident).bind fun w' => w'.live? rest

/-! ### To watch changes nothing -/

theorem heard_note (w : Watch g) (turn : Turn) (v : Service g) : (w.note turn v).heard = w.heard := by
  unfold note
  split
  all_goals try split
  all_goals rfl

theorem service_note (w : Watch g) (turn : Turn) (v : Service g) : (w.note turn v).service = v := by
  unfold note
  split
  all_goals try split
  all_goals rfl

theorem service_live? (hw : w.heard = true) (course : List Occurrence) :
    (w.live? (course.map .occurrence)).map Watch.service = w.service.live? course := by
  induction course generalizing w with
  | nil => rfl
  | cons occurrence rest ih =>
    have hmeet : ∃ f : Service g → Watch g, w.meet? (.occurrence occurrence) =
        (w.service.meet? occurrence).map f ∧ ∀ v, (f v).heard = true ∧ (f v).service = v := by
      cases occurrence with
      | turn turn =>
        refine ⟨w.note turn, ?_, fun v => ⟨(w.heard_note turn v).trans hw, w.service_note turn v⟩⟩
        exact congrArg (Option.map (w.note turn)) (if_pos hw)
      | sent event | closed => exact ⟨fun v => { w with service := v }, rfl, fun v => ⟨hw, rfl⟩⟩
    obtain ⟨f, hf, hsame⟩ := hmeet
    rw [List.map_cons, live?, hf, Service.live?]
    cases w.service.meet? occurrence with
    | none => rfl
    | some v =>
      rw [Option.map_some, Option.bind_some, Option.bind_some, ih (hsame v).1, (hsame v).2]

/-! ### What incidents come to -/

/-- The computations in flight and the reports are those that are written down. -/
structure Aligned (w : Watch g) : Prop where
  flights : w.flights.length = w.service.jobs.length
  reports : w.reported.map Prod.snd = w.service.reports

/-- The incidents that are possible, each with what it comes to. -/
inductive Met (w : Watch g) : Incident → Watch g → Prop where
  | receive {event : Event} {events : List Event} : w.service.phase = .listening →
      w.service.events = event :: events → w.Met (.occurrence (.turn .receive))
        { w with
          service := { w.service with events }.receive event
          received := w.received ++ [event]
          flights := w.flights ++ event.lost?.toList.map fun _ => w.received.length }
  | hungUp : w.service.phase = .listening → w.service.events = [] → w.service.closed = true →
      w.Met (.occurrence (.turn .receive)) { w with service := { w.service with phase := .closing } }
  | work {i n : Nat} {step : Step g.roster}
      {next : step.Answer → Procedure g.roster (Except String Report)} :
      w.service.jobs[i]? = some (.ask step next) → w.flights[i]? = some n →
      w.Met (.occurrence (.turn (.work i)))
        { w with
          service :=
            { w.service with
              build := ((Build.world g w.service.reporter).answer step w.service.build).2
              jobs := w.service.jobs.set i
                (next ((Build.world g w.service.reporter).answer step w.service.build).1) }
          deeds := w.deeds ++
            [⟨n, w.begun, step, ((Build.world g w.service.reporter).answer step w.service.build).1⟩] }
  /-- A report is taken. -/
  | report {i n : Nat} {report : Report} : w.service.jobs[i]? = some (.done (.ok report)) →
      w.flights[i]? = some n → w.service.phase.isAlive = true →
      w.Met (.occurrence (.turn (.join i)))
        { w with
          service :=
            { w.service with
              jobs := w.service.jobs.eraseIdx i
              reports := w.service.reports ++ [report] }
          flights := w.flights.eraseIdx i
          reported := w.reported ++ [(n, report)] }
  /-- A computation crashed, or nobody takes its report. -/
  | fail {i : Nat} {message : String} : w.service.phase.isAlive = true →
      w.service.jobs[i]? = some (.done (.error message)) ∨
        (∃ report, w.service.jobs[i]? = some (.done (.ok report))) ∧ w.heard = false →
      w.Met (.occurrence (.turn (.join i)))
        { w with
          service := { w.service with jobs := w.service.jobs.eraseIdx i, phase := .failed message }
          flights := w.flights.eraseIdx i }
  | begin : w.service.phase = .starting → w.service.jobs = [] →
      w.Met (.occurrence (.turn .begin)) { w with service := w.service.begin, begun := w.begun + 1 }
  | finish : w.service.phase = .closing → w.service.jobs = [] →
      w.Met (.occurrence (.turn .finish)) { w with service := { w.service with phase := .ended } }
  | sent {event : Event} : w.service.closed = false → w.service.phase.isAlive = true →
      w.Met (.occurrence (.sent event))
        { w with service := { w.service with events := w.service.events ++ [event] } }
  | closed : w.Met (.occurrence .closed) { w with service := w.service.close }
  | deafened : w.Met .deafened { w with heard := false }

theorem Aligned.exists_flight (ha : w.Aligned) {i : Nat}
    {job : Procedure g.roster (Except String Report)} (hi : w.service.jobs[i]? = some job) : ∃ n, w.flights[i]? = some n := by
  have hlt : i < w.flights.length := by
    rw [ha.flights]
    exact (List.getElem?_eq_some_iff.1 hi).1
  exact ⟨w.flights[i], List.getElem?_eq_getElem hlt⟩

/-- A turn that does not depend on who takes the reports. -/
theorem met_of_turned (ha : w.Aligned) {turn : Turn} {v : Service g} (ht : w.service.Turned turn v)
    (hheard : w.heard = true ∨ ∀ i, turn ≠ .join i) :
    w.Met (.occurrence (.turn turn)) (w.note turn v) := by
  cases ht with
  | receive hphase hevents =>
    unfold note
    simp only [hevents]
    exact .receive hphase hevents
  | hungUp hphase hevents hclosed =>
    rw [note_of_events_nil hevents]
    exact .hungUp hphase hevents hclosed
  | work hi =>
    obtain ⟨n, hn⟩ := ha.exists_flight hi
    unfold note
    simp only [hi, hn]
    exact .work hi hn
  | @join i result hi halive =>
    obtain ⟨n, hn⟩ := ha.exists_flight hi
    unfold note
    cases result with
    | error message =>
      simp only [hi]
      exact .fail halive (Or.inl hi)
    | ok report =>
      simp only [hi, hn]
      rw [if_pos (hheard.resolve_right fun h => h i rfl)]
      exact .report hi hn halive
  | begin hphase hjobs => exact .begin hphase hjobs
  | finish hphase hjobs => exact .finish hphase hjobs

theorem met_of_meet? (ha : w.Aligned) {incident : Incident} (h : w.meet? incident = some w') :
    w.Met incident w' := by
  cases incident with
  | deafened =>
    obtain rfl := Option.some.inj h
    exact .deafened
  | occurrence occurrence =>
    cases occurrence with
    | closed =>
      obtain rfl := Option.some.inj h
      exact .closed
    | sent event =>
      obtain ⟨v, hv, rfl⟩ := Option.map_eq_some_iff.1 h
      unfold Service.meet? send? at hv
      simp only at hv
      split at hv
      case isTrue => cases hv
      case isFalse hclosed =>
        split at hv
        case isFalse => cases hv
        case isTrue halive =>
          obtain rfl := Option.some.inj hv
          exact .sent (Bool.eq_false_iff.2 hclosed) halive
    | turn turn =>
      obtain ⟨v, hv, rfl⟩ := Option.map_eq_some_iff.1 h
      unfold turn? at hv
      split at hv
      case isTrue hheard => exact met_of_turned ha (turned_of_turn? hv) (Or.inl hheard)
      case isFalse hdeaf =>
        cases turn with
        | receive | work i | begin | finish =>
          exact met_of_turned ha (turned_of_turn? hv) (Or.inr fun i => nofun)
        | join i =>
          simp only [turnUnheard?] at hv
          split at hv
          case h_2 => cases hv
          case h_1 result hi =>
            split at hv
            case isFalse => cases hv
            case isTrue halive =>
              obtain rfl := Option.some.inj hv
              obtain ⟨n, hn⟩ := ha.exists_flight hi
              unfold note
              cases result with
              | error message =>
                simp only [hi]
                exact .fail halive (Or.inl hi)
              | ok report =>
                simp only [hi, hn, if_neg hdeaf]
                exact .fail halive (Or.inr ⟨⟨report, hi⟩, Bool.eq_false_iff.2 hdeaf⟩)

theorem Met.aligned {incident : Incident} (h : w.Met incident w') (ha : w.Aligned) : w'.Aligned := by
  obtain ⟨hflights, hreports⟩ := ha
  cases h with
  | @receive event events hphase hevents =>
    constructor
    · cases event with
      | lost key loss =>
        show (w.flights ++ [_]).length = (w.service.jobs ++ [_]).length
        rw [List.length_append, List.length_append, hflights]
        rfl
      | buildStarted | cancelled | shutdown => exact (congrArg _ (List.append_nil _)).trans hflights
    · cases event <;> exact hreports
  | work hi hn => exact ⟨hflights.trans (List.length_set ..).symm, hreports⟩
  | report hi hn halive =>
    refine ⟨?_, ?_⟩
    · show (w.flights.eraseIdx _).length = (w.service.jobs.eraseIdx _).length
      rw [List.length_eraseIdx, List.length_eraseIdx, hflights]
    · rw [List.map_append, hreports]
      rfl
  | fail halive hi =>
    refine ⟨?_, hreports⟩
    show (w.flights.eraseIdx _).length = (w.service.jobs.eraseIdx _).length
    rw [List.length_eraseIdx, List.length_eraseIdx, hflights]
  | begin | finish | hungUp | sent | closed | deafened => exact ⟨hflights, hreports⟩

/-- What is received leaves the events that wait. -/
theorem Met.received {incident : Incident} (h : w.Met incident w') :
    w'.received ++ w'.service.events =
      w.received ++ w.service.events ++ incident.event?.toList := by
  cases h with
  | @receive event events hphase hevents =>
    have hwaiting : ({ w.service with events }.receive event).events = events := by cases event <;> rfl
    show w.received ++ [event] ++ ({ w.service with events }.receive event).events = _ ++ []
    rw [hwaiting, hevents, List.append_nil, List.append_assoc]
    rfl
  | sent hclosed halive => exact (List.append_assoc ..).symm
  | work _ _ | report _ _ _ | fail _ _ | begin _ _ | finish _ _ | hungUp _ _ _ | closed | deafened =>
    exact (List.append_nil _).symm

/-- What every incident keeps is kept along a course. -/
theorem invariant_of_live? {P : Watch g → Prop}
    (hstep : ∀ {w w' : Watch g} {incident : Incident}, w.Aligned → P w → w.Met incident w' → P w')
    {course : List Incident} (ha : w.Aligned) (h : P w) (hw : w.live? course = some w') : P w' := by
  induction course generalizing w with
  | nil =>
    obtain rfl := Option.some.inj hw
    exact h
  | cons incident rest ih =>
    obtain ⟨u, hu, hw⟩ := Option.bind_eq_some_iff.1 hw
    have hmet := met_of_meet? ha hu
    exact ih (hmet.aligned ha) (hstep ha h hmet) hw

theorem Aligned.live {course : List Incident} (ha : w.Aligned) (hw : w.live? course = some w') :
    w'.Aligned := invariant_of_live? (fun ha _ hmet => hmet.aligned ha) ha ha hw

/-- What has been received and what waits to be are together what was sent. -/
theorem received_live? {course : List Incident} (ha : w.Aligned) (hw : w.live? course = some w') :
    w'.received ++ w'.service.events =
      w.received ++ w.service.events ++ course.filterMap Incident.event? := by
  induction course generalizing w with
  | nil =>
    obtain rfl := Option.some.inj hw
    exact (List.append_nil _).symm
  | cons incident rest ih =>
    obtain ⟨u, hu, hw⟩ := Option.bind_eq_some_iff.1 hw
    have hmet := met_of_meet? ha hu
    rw [ih (hmet.aligned ha) hw, hmet.received, List.append_assoc, List.filterMap_cons]
    cases incident.event? <;> rfl

/-- When no event waits, all that was sent has been received. -/
theorem received_of_events_nil {course : List Incident} (ha : w.Aligned)
    (hw : w.live? course = some w') (hnone : w'.service.events = []) :
    w'.received = w.received ++ w.service.events ++ course.filterMap Incident.event? := by
  rw [← received_live? ha hw, hnone, List.append_nil]

end Watch

namespace Session

/-- A watched service for the graph of a session that was sent some events. -/
def watch (s : Session) (events : List Event) : Watch s.graph := { service := s.service events }

theorem aligned_watch (s : Session) (events : List Event) : (s.watch events).Aligned := ⟨rfl, rfl⟩

end Session

end Rewinding
