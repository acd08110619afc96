import Rewinding.LogLevel

/-!
# Command line arguments

`Arguments.parse` reads the words of a command line. Words that start with dashes are options; an
option that takes a value takes the rest of its word after `=`, or else the next word. A word that an
option waits for is weighed when the next option follows or the words end, so that an option that
nobody knows is complained of first.
-/

namespace Rewinding

/-- What a command line asks for. -/
structure Arguments where
  graph : String := "Rewind.toml"
  /-- The key of the action that lost inputs. -/
  action : Option String := none
  /-- The paths of the inputs it lost. -/
  lost : List String := []
  dryRun : Bool := false
  logLevel : Option LogLevel := none
  deriving DecidableEq, Repr

namespace Arguments

inductive Refusal where
  /-- An option has no value, or one that it does not take. -/
  | invalidValue
  /-- An option is given twice. -/
  | conflict
  | unknown
  | tooManyValues
  /-- No action is named, and no dry run is asked for. -/
  | missing
  | help
  | version
  deriving DecidableEq, Repr

inductive Slot where
  | graph
  | action
  | lost
  | logLevel
  deriving DecidableEq, Repr

inductive Switch where
  | dryRun
  | help
  | version
  deriving DecidableEq, Repr

def Slot.ofName? : String → Option Slot
  | "graph" => some .graph
  | "action" => some .action
  | "lost" => some .lost
  | "log-level" => some .logLevel
  | _ => none

def Switch.ofName? : String → Option Switch
  | "dry-run" => some .dryRun
  | "help" => some .help
  | "version" => some .version
  | _ => none

def Switch.ofLetter? : Char → Option Switch
  | 'h' => some .help
  | 'V' => some .version
  | _ => none

/-! ### Words -/

inductive Word where
  /-- Two dashes: no option follows. -/
  | stop
  | long (name : String) (value : Option String)
  | short (letter : Char)
  | plain
  deriving DecidableEq, Repr

/-- The name of a long option and its value, if one is attached. -/
def Word.ofLong (cs : List Char) : Word :=
  .long (String.ofList (cs.takeWhile (· ≠ '=')))
    (match cs.dropWhile (· ≠ '=') with
     | [] => none
     | _ :: value => some (String.ofList value))

def Word.of (text : String) : Word :=
  match text.toList with
  | ['-', '-'] => .stop
  | '-' :: '-' :: cs => .ofLong cs
  | '-' :: c :: _ => .short c
  | _ => .plain

/-! ### Reading -/

/-- An option that was named and whose value was not weighed yet. -/
inductive Pending where
  | none
  | waiting (slot : Slot)
  | holding (slot : Slot) (value : String)
  deriving DecidableEq, Repr

/-- What was read so far. A description file is noted only if one is named. -/
structure Reading where
  graph : Option String := none
  action : Option String := none
  lost : List String := []
  dryRun : Bool := false
  logLevel : Option LogLevel := none
  pending : Pending := .none
  deriving DecidableEq, Repr

namespace Reading

def set (r : Reading) : Slot → String → Except Refusal Reading
  | .graph, value => if r.graph.isSome then .error .conflict else .ok { r with graph := some value }
  | .action, value => if r.action.isSome then .error .conflict else .ok { r with action := some value }
  | .lost, value => .ok { r with lost := r.lost ++ [value] }
  | .logLevel, value =>
    if r.logLevel.isSome then .error .conflict
    else
      match (LogLevel.ofWord? value).filter (· ≠ .off) with
      | some level => .ok { r with logLevel := some level }
      | none => .error .invalidValue

/-- Weigh the value of the option before. -/
def settle (r : Reading) : Except Refusal Reading :=
  match r.pending with
  | .none => .ok r
  | .waiting _ => .error .invalidValue
  | .holding slot value => { r with pending := .none }.set slot value

def switch (r : Reading) : Switch → Except Refusal Reading
  | .dryRun => if r.dryRun then .error .conflict else .ok { r with dryRun := true }
  | .help => .error .help
  | .version => .error .version

def long (r : Reading) (name : String) (value : Option String) : Except Refusal Reading :=
  match Slot.ofName? name, Switch.ofName? name, value with
  | some slot, _, some value => do (← r.settle).set slot value
  | some slot, _, none => do return { ← r.settle with pending := .waiting slot }
  | none, some _, some _ => .error .tooManyValues
  | none, some option, none => do (← r.settle).switch option
  | none, none, _ => .error .unknown

def plain (r : Reading) (text : String) : Except Refusal Reading :=
  match r.pending with
  | .waiting slot => .ok { r with pending := .holding slot text }
  | _ => .error .unknown

def words (r : Reading) : List String → Except Refusal Reading
  | [] => r.settle
  | text :: texts =>
    match Word.of text with
    | .stop => if texts.isEmpty then r.settle else .error .unknown
    | .long name value => do (← r.long name value).words texts
    | .short letter =>
      match Switch.ofLetter? letter with
      | some option => do (← (← r.settle).switch option).words texts
      | none => .error .unknown
    | .plain => do (← r.plain text).words texts

def arguments (r : Reading) : Except Refusal Arguments :=
  if r.action.isNone ∧ ¬ r.dryRun then .error .missing
  else .ok {
    graph := r.graph.getD "Rewind.toml"
    action := r.action
    lost := r.lost
    dryRun := r.dryRun
    logLevel := r.logLevel }

end Reading

/-- Read a command line. -/
def parse (words : List String) : Except Refusal Arguments := do
  (← Reading.words {} words).arguments

end Arguments

end Rewinding
