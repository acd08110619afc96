import Rewinding.Config.Load

/-!
# File trees

The files of a machine as one tree of directories, and what a path leads to in it. A path is
followed name by name, so every name but the last must lead to a directory, and a slash at the end
asks for one.
-/

namespace Rewinding

/-- A file with its bytes, or a directory with the names in it. -/
inductive FileTree where
  | file (bytes : ByteArray)
  | directory (entries : List (String × FileTree))

namespace FileTree

/-- How many bytes a name may have. -/
def maxName : Nat := 255

/-- How many bytes a path may have. -/
def maxPath : Nat := 4095

/-- Follow names from `here`, which lies in the directories `above`, the nearest first. The root
lies in itself. -/
def follow (here : FileTree) (above : List FileTree) : List String → Except FileFault FileTree
  | [] => .ok here
  | name :: names =>
    match here with
    | .file _ => .error .notDirectory
    | .directory entries =>
      if name = "" ∨ name = "." then follow here above names
      else if name = ".." then
        match above with
        | [] => follow here [] names
        | parent :: above => follow parent above names
      else if maxName < name.utf8ByteSize then .error .nameTooLong
      else
        match entries.lookup name with
        | some entry => follow entry (here :: above) names
        | none => .error .missing

/-- What a path leads to. A path that starts with a slash starts at the root, any other in the
directory with the path `working`. -/
def find (root : FileTree) (working : List String) (path : String) : Except FileFault FileTree :=
  if path.isEmpty then .error .missing
  else if maxPath < path.utf8ByteSize then .error .nameTooLong
  else follow root [] ((if path.startsWith "/" then [] else working) ++ path.splitOn "/")

/-- The text of the file that a path leads to. -/
def read (root : FileTree) (working : List String) (path : String) : Except FileFault String := do
  match ← root.find working path with
  | .file bytes => FileFault.textOf bytes
  | .directory _ => .error .isDirectory

/-! ### Paths to directories -/

theorem follow_dot (here : FileTree) (above : List FileTree) (entries : List (String × FileTree))
    (names : List String) (h : here = .directory entries) :
    follow here above ("." :: names) = follow here above names := by
  subst h
  simp [follow]

/-- A name that leads to a file ends the path. -/
theorem follow_file (bytes : ByteArray) (above : List FileTree) (name : String)
    (names : List String) : follow (.file bytes) above (name :: names) = .error .notDirectory := rfl

end FileTree

end Rewinding
