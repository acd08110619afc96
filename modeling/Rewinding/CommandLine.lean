import Rewinding.Arguments
import Rewinding.Diagnosis
import Rewinding.LogFilter

/-!
# The program on the command line

What the program answers to a command line, given the directives for its log and what it finds in
the file with the description.
-/

namespace Rewinding

/-- What a run of the program leaves: its exit code and the texts it prints. -/
structure Response where
  exit : UInt8 := 0
  stdout : String := ""
  stderr : String := ""
  deriving Repr

namespace CommandLine

def version : String := "0.1.0"

def help : String := Text.ofLines [
  "Show which graph nodes a build would restart when an action loses inputs.",
  "",
  "Usage: rewind [OPTIONS]",
  "",
  "Options:",
  "      --graph <PATH>       Path to the graph description (TOML) [default: Rewind.toml]",
  "      --action <KEY>       Key of the failing action, e.g. //pkg:lib#0",
  "      --lost <PATH>        Exec path of an input the action lost (repeatable)",
  "      --log-level <LEVEL>  Logging level (error, warn, info, debug, trace)",
  "      --dry-run            Print the graph, but don't compute a plan",
  "  -h, --help               Print help",
  "  -V, --version            Print version"]

def complaint : Arguments.Refusal → String
  | .invalidValue => "error: invalid value for an option\n"
  | .conflict => "error: an option cannot be used multiple times\n"
  | .unknown => "error: unexpected argument found\n"
  | .tooManyValues => "error: unexpected value for an option\n"
  | .missing => "error: the following required arguments were not provided: --action <KEY>\n"
  | .help | .version => ""

def refuse : Arguments.Refusal → Response
  | .help => { stdout := help }
  | .version => { stdout := "rewind " ++ version ++ "\n" }
  | refusal => { exit := 2, stderr := complaint refusal }

def question (a : Arguments) : Question :=
  { action := a.action, lost := a.lost, dryRun := a.dryRun }

/-- The answer to arguments, given what is in the file they name. -/
def carryOut (a : Arguments) (file : Except FileFault String) : Response :=
  match Diagnosis.answer file (question a) with
  | .ok text => { stdout := text }
  | .error fault => { exit := 1, stderr := "rewind error: " ++ fault.message ++ "\n" }

/-- The answer when the log cannot be set up. -/
def crash (char : Text.SplitChar) : Response := { exit := 101, stderr := char.message ++ "\n" }

/-- The arguments to be carried out, or the answer if there are none. The log is set up before
anything else is done. -/
def prepare (words : List String) (environment : Option String) : Except Response Arguments :=
  match Arguments.parse words with
  | .error refusal => .error (refuse refusal)
  | .ok a => ((LogFilter.finest a.logLevel environment).mapError crash).map fun _ => a

/-- The answer to a command line, given what is in each file. -/
def respond (words : List String) (environment : Option String)
    (file : String → Except FileFault String) : Response :=
  match prepare words environment with
  | .ok a => carryOut a (file a.graph)
  | .error response => response

end CommandLine

end Rewinding
