import Rewinding.Text.Numeral

/-!
# Log levels
-/

namespace Rewinding

/-- How fine a log is, from nothing at all to everything. -/
inductive LogLevel where
  | off
  | error
  | warn
  | info
  | debug
  | trace
  deriving DecidableEq, Repr, Inhabited

namespace LogLevel

/-- The levels, the coarsest first. -/
def all : List LogLevel := [.off, .error, .warn, .info, .debug, .trace]

def word : LogLevel → String
  | .off => "off"
  | .error => "error"
  | .warn => "warn"
  | .info => "info"
  | .debug => "debug"
  | .trace => "trace"

def rank (level : LogLevel) : Nat := all.idxOf level

def max (a b : LogLevel) : LogLevel := if a.rank < b.rank then b else a

/-- The level that a word names, exactly. -/
def ofWord? (s : String) : Option LogLevel := all.find? fun level => level.word = s

/-- The level that a numeral stands for. -/
def ofNumeral? (cs : List Char) : Option LogLevel :=
  match Text.readNumeral cs with
  | .ok n => all[n.toNat]?
  | .error _ => none

/-- Read a level as directives write it: its word in any mixture of case, or its place. -/
def parse? (cs : List Char) : Option LogLevel :=
  ofWord? (String.ofList (cs.map Char.toLower)) <|> ofNumeral? cs

end LogLevel

end Rewinding
