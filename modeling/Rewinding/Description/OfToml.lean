import Rewinding.Description
import Rewinding.Toml.Document

/-!
# Graph descriptions in TOML

A section is a table. Fields may be left out, and fields that no section has are skipped, but a
value in them must be one that can be represented: integers that have a value of at most 128 bits,
floats of 64. A
section may also be an array, which gives its fields in their order, or a date, which stands for a
section without fields. A word stands for itself, or is the only key of a table with nothing in its
value.
-/

namespace Rewinding

namespace Toml

mutual

/-- Whether every number in a value can be represented. -/
def Value.isReadable : Value → Bool
  | .integer value => value.any fun n => -(2 ^ 127) ≤ n && n < 2 ^ 128
  | .float text => !text.overflows
  | .array _ items => allReadable items
  | .table _ entries => allEntriesReadable entries
  | _ => true

def allReadable : List Value → Bool
  | [] => true
  | value :: values => value.isReadable && allReadable values

def allEntriesReadable : List (String × Value) → Bool
  | [] => true
  | (_, value) :: entries => value.isReadable && allEntriesReadable entries

end

/-! ### Single values -/

def Value.text? : Value → Option String
  | .string text => some text
  | _ => none

def Value.bool? : Value → Option Bool
  | .boolean b => some b
  | _ => none

def Value.word32? : Value → Option UInt32
  | .integer (some n) => if 0 ≤ n ∧ n < UInt32.size then some (UInt32.ofNat n.toNat) else none
  | _ => none

def Value.texts? : Value → Option (List String)
  | .array _ items => items.mapM Value.text?
  | _ => none

/-- Read one of a few words. -/
def Value.choice? (ofWord? : String → Option α) : Value → Option α
  | .string word => ofWord? word
  | .table _ [(word, .table _ [])] => ofWord? word
  | .table _ [(word, .array _ [])] => ofWord? word
  | _ => none

/-! ### Sections -/

/-- The fields of a section, given their names in order. -/
def Value.section? (names : List String) : Value → Option Entries
  | .table _ entries =>
    if entries.all fun (name, value) => names.contains name || value.isReadable then some entries
    else none
  | .array _ items => some (names.zip items)
  | .date => some []
  | _ => none

/-- Read a field, which has the value `default` if it is left out. -/
def Entries.field? (fields : Entries) (name : String) (read? : Value → Option α) (default : α) :
    Option α :=
  match fields.get? name with
  | some value => read? value
  | none => some default

/-- Read a table of sections by their names. -/
def Value.sections? (read? : Value → Option α) : Value → Option (Std.ExtTreeMap String α)
  | .table _ entries =>
    entries.foldlM (fun sections (name, value) => (read? value).map (sections.insert name)) ∅
  | _ => none

end Toml

open Toml

def Settings.ofToml? (value : Value) : Option Settings := do
  let fields ← value.section? ["bug_report", "max_rewinds_per_action"]
  let reportMode ← fields.field? "bug_report" (Value.choice? ReportMode.ofWord?) .log
  let maxRewinds ← fields.field? "max_rewinds_per_action" Value.word32? 10
  return { reportMode, maxRewinds }

def ArtifactSection.ofToml? (value : Value) : Option ArtifactSection := do
  let fields ← value.section? ["kind", "members", "expanded_actions"]
  let kind ← fields.field? "kind" (Value.choice? ArtifactKind.ofWord?) .derived
  let members ← fields.field? "members" Value.texts? []
  let expandedActions ← fields.field? "expanded_actions" Value.texts? []
  return { kind, members, expandedActions }

def ActionSection.ofToml? (value : Value) : Option ActionSection := do
  let fields ← value.section? ["mnemonic", "inputs", "outputs", "propagates_inputs", "rewind_deps"]
  let mnemonic ← fields.field? "mnemonic" Value.text? "Action"
  let inputs ← fields.field? "inputs" Value.texts? []
  let outputs ← fields.field? "outputs" Value.texts? []
  let propagates ← fields.field? "propagates_inputs" Value.bool? false
  let rewindDeps ← fields.field? "rewind_deps" Value.texts? []
  return { mnemonic, inputs, outputs, propagates, rewindDeps }

/-- Read a description from the root table of a document. -/
def Description.ofToml? (root : Value) : Option Description := do
  let fields ← root.section? ["config", "artifact", "action"]
  let settings ← fields.field? "config" Settings.ofToml? {}
  let artifacts ← fields.field? "artifact" (Value.sections? ArtifactSection.ofToml?) ∅
  let actions ← fields.field? "action" (Value.sections? ActionSection.ofToml?) ∅
  return { settings, artifacts, actions }

/-- Read a description from the text of a document. -/
def Description.parse? (text : String) : Option Description := do
  let root ← Toml.parse? text
  Description.ofToml? (.table .header root)

end Rewinding
