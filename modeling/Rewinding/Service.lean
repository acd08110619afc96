import Rewinding.Crew
import Rewinding.Session

/-!
# The rewind service

A service listens to what happens in builds. It handles every loss it is told of, several at once,
and reports how each ended. A build begins only when nothing is in flight, so no computation ever
sees two builds.

* `turn?` is one turn of a service. Which turns are possible is all that is fixed; every order of
  turns is a way in which a service may run.
* `settle` runs a service by one particular order: a computation ends before the next event is
  received.
* `Session.rewindOnce` is the errand of a client that has a single loss to report.
-/

namespace Rewinding

/-- What a service is told. -/
inductive Event where
  | buildStarted
  | lost (key : ActionKey) (loss : Loss)
  | cancelled
  | shutdown

/-- How the handling of a loss ended. -/
structure Report where
  action : ActionKey
  result : Except Failure Outcome

/-- What a service is doing. -/
inductive Phase where
  /-- It receives events. -/
  | listening
  /-- A build was announced and begins when nothing is in flight. -/
  | starting
  /-- It receives nothing more and ends when nothing is in flight. -/
  | closing
  | ended
  /-- A computation crashed with a text, and the service with it. -/
  | failed (message : String)
  deriving DecidableEq, Repr

namespace Phase

def isAlive : Phase → Bool
  | .listening | .starting | .closing => true
  | .ended | .failed _ => false

end Phase

/-- A service for one graph. -/
structure Service (g : Graph) where
  reporter : Reporter
  maxRewinds : UInt32
  build : Build
  phase : Phase := .listening
  /-- The computations in flight. Each ends with a report or the text of a crash. -/
  jobs : List (Procedure g.roster (Except String Report)) := []
  /-- The events that were sent and not received yet, the earliest first. -/
  events : List Event := []
  /-- Whether nothing more will be sent. -/
  closed : Bool := false
  /-- The reports, the earliest first. -/
  reports : List Report := []

namespace Service

variable {g : Graph}

/-- What a service runs to handle a loss. -/
def job (v : Service g) (key : ActionKey) (loss : Loss) : Procedure g.roster (Except String Report) := do
  let result ← (Planning.handle v.maxRewinds g.runfilesOwners key loss).run
  return (Stop.split result).map fun result => ⟨key, result⟩

/-! ### What happens in a turn -/

def receive (v : Service g) : Event → Service g
  | .buildStarted => { v with phase := .starting }
  | .lost key loss => { v with jobs := v.jobs ++ [v.job key loss] }
  | .cancelled => { v with build := v.build.cancel }
  | .shutdown => { v with phase := .closing }

/-- Take what a computation ended with. -/
def join (v : Service g) : Except String Report → Service g
  | .ok report => { v with reports := v.reports ++ [report] }
  | .error message => { v with phase := .failed message }

def begin (v : Service g) : Service g := { v with build := v.build.begin, phase := .listening }

/-- A turn of a service. -/
inductive Turn where
  /-- Receive the next event, or learn that there will be none. -/
  | receive
  /-- The computation at a place takes a step. -/
  | work (i : Nat)
  /-- Take what the computation at a place ended with. -/
  | join (i : Nat)
  | begin
  | finish
  deriving DecidableEq, Repr

/-- Take a turn, if it is possible now. -/
def turn? (v : Service g) : Turn → Option (Service g)
  | .receive =>
    if v.phase = .listening then
      match v.events with
      | event :: events => some ({ v with events }.receive event)
      | [] => if v.closed then some { v with phase := .closing } else none
    else none
  | .work i =>
    match v.jobs[i]? with
    | some (.ask step next) =>
      let (answer, build) := (Build.world g v.reporter).answer step v.build
      some { v with build, jobs := v.jobs.set i (next answer) }
    | _ => none
  | .join i =>
    match v.jobs[i]? with
    | some (.done result) =>
      if v.phase.isAlive then some ({ v with jobs := v.jobs.eraseIdx i }.join result) else none
    | _ => none
  | .begin => if v.phase = .starting ∧ v.jobs.isEmpty then some v.begin else none
  | .finish => if v.phase = .closing ∧ v.jobs.isEmpty then some { v with phase := .ended } else none

/-! ### One order of turns -/

/-- Run some computations to their ends, one after another, and take what they end with. -/
def joinAll (v : Service g) : List (Procedure g.roster (Except String Report)) → Service g
  | [] => v
  | job :: jobs =>
    let (result, build) := job.run (Build.world g v.reporter) v.build
    ({ v with build }.join result).joinAll jobs

/-- Leave nothing in flight, and begin or end if that was waited for. -/
def rest (v : Service g) : Service g :=
  let idle := { v with jobs := [] }.joinAll v.jobs
  match idle.phase with
  | .starting => idle.begin
  | .closing => { idle with phase := .ended }
  | _ => idle

/-- Receive some events, and rest after each. -/
def receiveAll (v : Service g) : List Event → Service g
  | [] => if v.phase = .listening ∧ v.closed then { v with phase := .ended } else v
  | event :: events =>
    if v.phase = .listening then ((v.receive event).rest).receiveAll events
    else { v with events := event :: events }

/-- Run a service until it waits for an event or has ended. -/
def settle (v : Service g) : Service g := { v with events := [] }.receiveAll v.events

/-! ### Clients -/

/-- Send an event. A service that has ended takes none. -/
def send? (v : Service g) (event : Event) : Option (Service g) :=
  if v.phase.isAlive then some { v with events := v.events ++ [event] } else none

def close (v : Service g) : Service g := { v with closed := true }

/-- The session that a service leaves behind. -/
def session (v : Service g) : Session :=
  { graph := g, reporter := v.reporter, maxRewinds := v.maxRewinds, build := v.build }

end Service

/-- Why a client has no report. -/
inductive NoReport where
  /-- The service ended before it could be told something. -/
  | gone
  | crashed (message : String)
  /-- The service ended without a report. -/
  | silent
  deriving DecidableEq, Repr

def NoReport.message : NoReport → String
  | .gone => "channel closed"
  | .crashed message => message
  | .silent => "session finished without a rewind report"

namespace Session

/-- A service for the graph of a session that was sent some events. -/
def service (s : Session) (events : List Event) : Service s.graph :=
  { reporter := s.reporter, maxRewinds := s.maxRewinds, build := s.build, events }

/-- Tell a new service one event. What it is doing when it has settled, what it reported, and the
session that it leaves behind. -/
def tell (s : Session) (event : Event) : Phase × List Report × Session :=
  let v := (s.service [event]).settle
  (v.phase, v.reports, v.session)

/-- Start a build, report one loss to a new service, and end the service when it has reported. The
build may be cancelled just before the loss. -/
def rewindOnce (s : Session) (key : ActionKey) (loss : Loss) (cancelled : Bool) :
    Except NoReport Report × Session :=
  let cancellation := if cancelled then [Event.cancelled] else []
  let v := (s.service ([.buildStarted] ++ cancellation ++ [.lost key loss])).settle
  match v.send? .shutdown with
  | none => (.error .gone, v.session)
  | some v =>
    let v := v.settle
    match v.phase, v.reports with
    | .failed message, _ => (.error (.crashed message), v.session)
    | _, report :: _ => (.ok report, v.session)
    | _, [] => (.error .silent, v.session)

end Session

end Rewinding
