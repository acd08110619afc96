import Rewinding.Config.Validate
import Rewinding.Description.OfToml
import Rewinding.Failure

/-!
# Loading a graph description

From what was found in a file to a checked description. The first failure counts: that the file
cannot be read, that its text is no description, and that the description is rejected.
-/

namespace Rewinding

/-- The text that some bytes spell. -/
def FileFault.textOf (bytes : ByteArray) : Except FileFault String :=
  match String.fromUTF8? bytes with
  | some text => .ok text
  | none => .error .notText

/-- The description that a text spells. -/
def Description.read (source : String) : Except Failure Description :=
  match parse? source with
  | some description => .ok description
  | none => .error .toml

def Description.load (file : Except FileFault String) : Except Failure Description :=
  match file with
  | .ok source => read source
  | .error fault => .error (.file fault)

def Description.check (d : Description) : Except Failure Config := d.validate.mapError .rejected

def Config.load (file : Except FileFault String) : Except Failure Config := do
  (← Description.load file).check

end Rewinding
