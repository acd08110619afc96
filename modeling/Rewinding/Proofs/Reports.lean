import Rewinding.Session

/-!
# What computations report

A report of a defect goes to a reporter, which may keep it in the build, end the computation with it,
or do neither. `Procedure.reports` and `Crew.reports` read off the steps themselves what is reported.
A reporter that keeps what it gets shows the same texts in the build (`reports_handle_keeping`), and to
keep them changes nothing else.
-/

namespace Rewinding

variable {known : List Action} {α σ : Type}

/-- The text that a step reports, if it does. -/
def Step.report? : Step known → Option String
  | .report message => some message
  | _ => none

namespace Procedure

/-- The text that a procedure reports in its next step, if that is a report. -/
def report? : Procedure known α → Option String
  | .done _ => none
  | .ask step _ => step.report?

/-- What a procedure reports until it ends. -/
def reports (world : World known σ) : Procedure known α → σ → List String
  | .done _, _ => []
  | .ask step next, state =>
    step.report?.toList ++
      (next (world.answer step state).1).reports world (world.answer step state).2

end Procedure

namespace Crew

/-- What the member at place `i` reports in a turn of the member at place `j`. -/
def reportIn (c : Crew known α σ) (i j : Nat) : List String :=
  if j = i then (c.members[i]?.bind Procedure.report?).toList else []

/-- What the member at place `i` reports while a crew works off a schedule. -/
def reports (world : World known σ) (i : Nat) (c : Crew known α σ) : List Nat → List String
  | [] => []
  | j :: js => c.reportIn i j ++ (c.turn world j).reports world i js

theorem reports_cons (world : World known σ) (i : Nat) (c : Crew known α σ) (j : Nat) (js : List Nat) :
    c.reports world i (j :: js) = c.reportIn i j ++ (c.turn world j).reports world i js := rfl

end Crew

/-! ### Reports that are kept -/

/-- The reporter that keeps reports besides. -/
def Reporter.keeping (reporter : Reporter) : Reporter := { reporter with collects := true }

namespace Build

/-- The build with other reports. -/
def withReports (b : Build) (reports : List String) : Build := { b with reports }

theorem withReports_take (b : Build) (reporter : Reporter) (message : String) (reports : List String) :
    (b.take reporter message).withReports reports = b.withReports reports := by
  unfold take
  split <;> rfl

/-- Whatever becomes of a report, nothing else in the build changes. -/
theorem exists_take_eq (b : Build) (reporter : Reporter) (message : String) :
    ∃ reports, b.take reporter message = b.withReports reports := by
  unfold take
  split
  · exact ⟨_, rfl⟩
  · exact ⟨b.reports, rfl⟩

variable {g : Graph} (reporter : Reporter)

/-- No answer depends on the reports, and only a report adds to them. -/
theorem answer_keeping (step : Step g.roster) (b : Build) (kept : List String) :
    (world g reporter.keeping).answer step (b.withReports kept) =
      (((world g reporter).answer step b).1,
        ((world g reporter).answer step b).2.withReports (kept ++ step.report?.toList)) := by
  cases step with
  | report message =>
    have htake : (b.withReports kept).take reporter.keeping message =
      b.withReports (kept ++ [message]) := rfl
    exact Prod.ext rfl (htake.trans (withReports_take ..).symm)
  | _ =>
    rw [show Step.report? _ = none from rfl, Option.toList_none, List.append_nil]
    rfl

/-- To keep reports changes nothing else. -/
theorem run_keeping {α : Type} (p : Procedure g.roster α) (b : Build) (kept : List String) :
    p.run (world g reporter.keeping) (b.withReports kept) =
      ((p.run (world g reporter) b).1,
        (p.run (world g reporter) b).2.withReports (kept ++ p.reports (world g reporter) b)) := by
  induction p generalizing b kept with
  | done value =>
    rw [Procedure.reports, List.append_nil]
    rfl
  | ask step next ih =>
    rw [Procedure.run_ask, Procedure.run_ask, answer_keeping, ih, Procedure.reports,
      List.append_assoc]

end Build

namespace Session

/-- What the handling of the loss of inputs of `key` reports. -/
def reported (s : Session) (key : ActionKey) (loss : Loss) : List String :=
  (s.handling key loss).run.reports (Build.world s.graph s.reporter) s.build

/-- The session that keeps its reports from now on. -/
def keeping (s : Session) : Session :=
  { s with reporter := s.reporter.keeping, build := s.build.withReports [] }

/-- Where reports are kept, they can be seen in the build. -/
theorem reports_handle_keeping (s : Session) (key : ActionKey) (loss : Loss) :
    (s.keeping.handle key loss).2.build.reports = s.reported key loss := by
  show ((s.handling key loss).run.run (Build.world s.graph s.reporter.keeping)
    (s.build.withReports [])).2.reports = _
  rw [Build.run_keeping]
  rfl

end Session

end Rewinding
