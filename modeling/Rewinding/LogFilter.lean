import Rewinding.LogFilter.Directive

/-!
# Log filters

A filter is a list of directives between commas. `LogFilter.finest` is the finest level that a filter
lets through anywhere.
-/

namespace Rewinding.LogFilter

/-- Cut a text at its commas. Nothing stands between two commas in a row. -/
def directives (cs : List Char) : List (List Char) :=
  match cs with
  | [] => []
  | ',' :: cs => directives cs
  | c :: cs => (c :: cs.takeWhile (· ≠ ',')) :: directives (cs.dropWhile (· ≠ ','))
termination_by cs.length
decreasing_by
  · simp
  · have := (List.dropWhile_suffix (l := cs) (· ≠ ',')).length_le
    simp only [List.length_cons]
    omega

/-- The finest level that a list of directives lets through, which is none for an empty list. The
first directive without a level decides. -/
def levelOf (cs : List Char) : Except Directive.Fault LogLevel :=
  ((directives cs).mapM Directive.finest).map fun levels => levels.foldl LogLevel.max .off

/-- The finest level that is logged. A level that was asked for counts alone; otherwise the
directives of the environment do, unless they are blank or cannot be read. A directive with a
part that would split a character stops the program. -/
def finest (level : Option LogLevel) (environment : Option String) :
    Except Text.SplitChar LogLevel :=
  match level, environment.map fun text => Text.trim text.toList with
  | some level, _ => .ok level
  | none, some (c :: cs) =>
    match levelOf (c :: cs) with
    | .ok level => .ok level
    | .error .unreadable => .ok .info
    | .error (.split char) => .error char
  | none, _ => .ok .info

end Rewinding.LogFilter
