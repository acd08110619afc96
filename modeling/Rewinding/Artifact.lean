import Rewinding.Node

/-!
# Artifacts and inputs

An artifact is a file or a collection of files, named by its path. An action reads inputs: artifacts,
and paths that are no node of the graph themselves, such as members of a collection.
-/

namespace Rewinding

/-- What a path names. Only a `source` is not made by an action; a `tree` and a collection of
`runfiles` own members that can be read one by one. -/
inductive ArtifactKind where
  | source
  | derived
  | tree
  | runfiles
  deriving DecidableEq, Repr, Inhabited

namespace ArtifactKind

def all : List ArtifactKind := [.source, .derived, .tree, .runfiles]

def word : ArtifactKind → String
  | .source => "source"
  | .derived => "derived"
  | .tree => "tree"
  | .runfiles => "runfiles"

/-- The name of a kind in a listing. -/
def title : ArtifactKind → String
  | .source => "Source"
  | .derived => "Derived"
  | .tree => "Tree"
  | .runfiles => "Runfiles"

def ofWord? (s : String) : Option ArtifactKind := all.find? fun kind => kind.word = s

/-- The place of a kind among the kinds. -/
def rank : ArtifactKind → Nat
  | .source => 0
  | .derived => 1
  | .tree => 2
  | .runfiles => 3

theorem rank_injective {a b : ArtifactKind} (h : a.rank = b.rank) : a = b := by
  cases a <;> cases b <;> simp_all [rank]

theorem ofWord?_word (kind : ArtifactKind) : ofWord? kind.word = some kind := by
  cases kind <;> decide +kernel

end ArtifactKind

/-- A file or collection of files: a source, or what an action makes. -/
@[ext]
structure Artifact where
  path : String
  kind : ArtifactKind
  deriving DecidableEq, Repr, Inhabited

namespace Artifact

def isSource (a : Artifact) : Bool := a.kind = .source

/-- The node that stands for the artifact; it forgets the kind. -/
def node (a : Artifact) : Node := .artifact a.path

/-! ### Order: by path, then by kind -/

instance : Ord Artifact where
  compare := compareLex (compareOn Artifact.path) (compareOn fun a => a.kind.rank)

instance : Std.TransOrd Artifact :=
  inferInstanceAs (Std.TransCmp
    (compareLex (compareOn Artifact.path) (compareOn fun a : Artifact => a.kind.rank)))

instance : Std.LawfulEqOrd Artifact where
  eq_of_compare {a b} h := by
    obtain ⟨hp, hk⟩ := Ordering.then_eq_eq.1 (show (compareOn Artifact.path a b).then
      (compareOn (fun a : Artifact => a.kind.rank) a b) = .eq from h)
    exact Artifact.ext (Std.LawfulEqOrd.eq_of_compare hp)
      (ArtifactKind.rank_injective (Std.LawfulEqOrd.eq_of_compare hk))

end Artifact

/-- Something an action reads. A `virtual` input is no node of the graph, but its path is drawn
from the paths of artifacts. -/
inductive Input where
  | artifact (artifact : Artifact)
  | virtual (path : String)
  deriving DecidableEq, Repr, Inhabited

namespace Input

def path : Input → String
  | .artifact a => a.path
  | .virtual path => path

def artifact? : Input → Option Artifact
  | .artifact a => some a
  | .virtual _ => none

/-- The node that the input has if it is a direct dependency. -/
def node (i : Input) : Node := .artifact i.path

/-! ### Order: artifacts, then virtual inputs -/

/-- The place of the form of an input. -/
def level : Input → Nat
  | .artifact _ => 0
  | .virtual _ => 1

/-- What inputs of one form are ordered by. -/
def name : Input → Artifact
  | .artifact a => a
  | .virtual path => ⟨path, .source⟩

instance : Ord Input where
  compare := compareLex (compareOn level) (compareOn name)

instance : Std.TransOrd Input :=
  inferInstanceAs (Std.TransCmp (compareLex (compareOn level) (compareOn name)))

theorem eq_of_level_of_name {a b : Input} (hl : a.level = b.level) (hn : a.name = b.name) :
    a = b := by
  cases a <;> cases b <;> simp_all [level, name]

instance : Std.LawfulEqOrd Input where
  eq_of_compare {a b} h := by
    obtain ⟨hl, hn⟩ := Ordering.then_eq_eq.1 (show (compareOn level a b).then
      (compareOn name a b) = .eq from h)
    exact eq_of_level_of_name (Std.LawfulEqOrd.eq_of_compare hl) (Std.LawfulEqOrd.eq_of_compare hn)

end Input

end Rewinding
