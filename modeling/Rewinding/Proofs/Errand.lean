import Rewinding.Proofs.Handling
import Rewinding.Service

/-!
# What a client learns from a service

A client that sends a single loss to a new service, after the start of a build, learns what the
handling of that loss came to in the session with its build begun (`rewindOnce_fst`). A service that
crashed on the way is gone when the client comes back to it.
-/

namespace Rewinding

namespace Service

variable {g : Graph}

/-- Joining a computation changes nothing about what a service does, unless that one crashed. -/
theorem phase_join (v : Service g) (result : Except String Report) :
    (v.join result).phase = v.phase ∨ ∃ message, (v.join result).phase = .failed message := by
  cases result with
  | ok report => exact Or.inl rfl
  | error message => exact Or.inr ⟨message, rfl⟩

/-- A service that is neither about to begin nor about to end goes on from where all is joined. -/
theorem rest_eq_joinAll {v w : Service g} (hw : { v with jobs := [] }.joinAll v.jobs = w)
    (hstarting : w.phase ≠ .starting) (hclosing : w.phase ≠ .closing) : v.rest = w := by
  unfold rest
  simp only [hw]

/-- What a computation that handles a loss ends with is what the handling came to. -/
theorem run_job (v : Service g) (key : ActionKey) (loss : Loss) (b : Build) :
    (v.job key loss).run (Build.world g v.reporter) b =
      let handled := Procedure.exec (Build.world g v.reporter)
        (Planning.handle v.maxRewinds g.runfilesOwners key loss) b
      ((Stop.split handled.1).map (Report.mk key), handled.2) := by
  unfold job
  rw [Procedure.run_bind]
  rfl

theorem receiveAll_cons {v : Service g} (hphase : v.phase = .listening) (event : Event)
    (events : List Event) :
    v.receiveAll (event :: events) = (v.receive event).rest.receiveAll events := if_pos hphase

theorem receiveAll_nil {v : Service g} (hclosed : v.closed = false) : v.receiveAll [] = v := by
  unfold receiveAll
  simp [hclosed]

end Service

namespace Session

/-- The session with a new build. -/
def begun (s : Session) : Session := s.update Build.begin

/-- A new service on the build `b`. -/
def serviceOn (s : Session) (b : Build) : Service s.graph := { s.service [] with build := b }

/-- A service that is told of a loss handles it to the end, and waits again unless that crashed. -/
theorem rest_lost (s : Session) (b : Build) (key : ActionKey) (loss : Loss) :
    ((s.serviceOn b).receive (.lost key loss)).rest =
      let ended := ((s.serviceOn b).job key loss).run (Build.world s.graph s.reporter) b
      (s.serviceOn ended.2).join ended.1 := by
  refine Service.rest_eq_joinAll rfl ?_ ?_
  · obtain h | ⟨message, h⟩ := Service.phase_join _ _ <;> rw [h] <;> exact nofun
  · obtain h | ⟨message, h⟩ := Service.phase_join _ _ <;> rw [h] <;> exact nofun

/-- A new service that is told of a build, and then of a loss, handles the loss in the new build. -/
theorem settle_service (s : Session) (key : ActionKey) (loss : Loss) :
    (s.service [.buildStarted, .lost key loss]).settle =
      let ended := ((s.serviceOn s.build.begin).job key loss).run (Build.world s.graph s.reporter)
        s.build.begin
      (s.serviceOn ended.2).join ended.1 := by
  have hbegun : ((s.serviceOn s.build).receive .buildStarted).rest = s.serviceOn s.build.begin := rfl
  show (s.serviceOn s.build).receiveAll [.buildStarted, .lost key loss] = _
  rw [Service.receiveAll_cons rfl, hbegun, Service.receiveAll_cons rfl, rest_lost]
  refine Service.receiveAll_nil ?_
  generalize Procedure.run _ _ _ = ended
  obtain ⟨result, b⟩ := ended
  cases result <;> rfl

/-- **A client learns what the handling of its loss came to.** The service handles the loss in a new
build; if that ends with a result, be it a failure, the client gets it, and if it crashes, the client
finds nobody. -/
theorem rewindOnce_fst (s : Session) (key : ActionKey) (loss : Loss) :
    (s.rewindOnce key loss false).1 = match Stop.split (s.begun.handle key loss).1 with
      | .ok result => .ok ⟨key, result⟩
      | .error _ => .error .gone := by
  have hrun : (((s.serviceOn s.build.begin).job key loss).run (Build.world s.graph s.reporter)
      s.build.begin).1 = (Stop.split (s.begun.handle key loss).1).map (Report.mk key) :=
    congrArg Prod.fst ((s.serviceOn s.build.begin).run_job key loss s.build.begin)
  have hsettle := s.settle_service key loss
  unfold rewindOnce
  simp only [Bool.false_eq_true, if_false, List.append_nil, List.cons_append, List.nil_append]
  rw [hsettle]
  generalize Procedure.run _ _ _ = ended at hrun ⊢
  generalize Stop.split _ = answer at hrun ⊢
  obtain ⟨result, b⟩ := ended
  obtain rfl : result = answer.map (Report.mk key) := hrun
  cases answer with
  -- the service has failed, and takes no event any more
  | error message => rfl
  -- the service has one report, waits, and ends when it is told to
  | ok result => rfl

end Session

end Rewinding
