import Rewinding.Text.Blank
import Rewinding.Text.Lowercase

/-!
# What a defect report does

A defect that is found while a rewind is computed is reported. A description says whether the report
is logged or ends the computation at once.
-/

namespace Rewinding

/-- What the report of a defect does. -/
inductive ReportMode where
  | log
  | panic
  deriving DecidableEq, Repr, Inhabited

namespace ReportMode

def all : List ReportMode := [.log, .panic]

def word : ReportMode → String
  | .log => "log"
  | .panic => "panic"

/-- The name of a mode in a listing. -/
def title : ReportMode → String
  | .log => "Log"
  | .panic => "Panic"

def ofWord? (s : String) : Option ReportMode := all.find? fun mode => mode.word = s

/-- A text that names no mode, trimmed and in lowercase. -/
structure Unknown where
  lowered : String
  deriving DecidableEq, Repr

def Unknown.message (e : Unknown) : String :=
  "invalid bug_report: " ++ e.lowered ++ " (expected \"log\" or \"panic\")"

/-- Read a mode. Neither case nor blanks at the ends matter. -/
def parse (s : String) : Except Unknown ReportMode :=
  let lowered := String.ofList (Text.lowercase (Text.trim s.toList))
  match ofWord? lowered with
  | some mode => .ok mode
  | none => .error ⟨lowered⟩

end ReportMode

end Rewinding
