import Std.Data.ExtTreeSet
import Rewinding.Artifact

/-!
# Lost inputs

An executor that could not read some inputs of an action reports a `Loss`: the inputs it missed, each
under the digest of the content it expected, and what it knows of the collections they belong to.
-/

namespace Rewinding

/-- Which collection owns a path: the members of trees and file sets, or those of runfiles. -/
abbrev Owners := Std.ExtTreeMap String Artifact

/-- Answers which collection owns a path, for any path. -/
structure OwnerLookup where
  ownerOf : String → Option Artifact

def Owners.lookup (owners : Owners) : OwnerLookup where
  ownerOf path := owners[path]?

instance : Coe Owners OwnerLookup := ⟨Owners.lookup⟩

/-- Owners from pairs of a member and its owner; a later pair replaces an earlier one. -/
def Owners.ofPairs (pairs : List (String × Artifact)) : Owners :=
  pairs.foldl (fun owners (member, owner) => owners.insert member owner) ∅

/-- What an executor reports when inputs of an action were lost. -/
structure Loss where
  message : String
  /-- The lost inputs under their digests. -/
  lost : Std.ExtTreeMap String Input := ∅
  /-- The trees and file sets that own lost members. -/
  owners : Owners := ∅

namespace Loss

def inputs (loss : Loss) : List Input := loss.lost.toList.map Prod.snd

def digests (loss : Loss) : List String := loss.lost.toList.map Prod.fst

/-- The loss with one more input, which replaces an earlier one of the same digest. -/
def withLost (loss : Loss) (digest : String) (input : Input) : Loss :=
  { loss with lost := loss.lost.insert digest input }

/-- The loss of some inputs under their digests; a later one replaces an earlier one of the same
digest. -/
def ofEntries (message : String) (entries : List (String × Input)) (owners : Owners) : Loss :=
  entries.foldl (fun loss (digest, input) => loss.withLost digest input) { message, owners }

/-- The written form: the message, then the paths of the lost inputs. -/
def text (loss : Loss) : String :=
  loss.message ++ " (lost inputs:" ++ String.join (loss.inputs.map fun i => " " ++ i.path) ++ ")"

end Loss

end Rewinding
