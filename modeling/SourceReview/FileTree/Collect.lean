import SourceReview.FileTree.Basic
import SourceReview.Registry.Basic

/-!
# Collecting files

The files of a directory tree that can be reviewed, in the order of a walk that goes into each
directory where it stands among its sorted neighbours. Hidden directories and those with foreign or
generated files are passed over, but not when the walk begins there.
-/

namespace SourceReview

/-- The names of directories with foreign or generated files. -/
def foreignDirectories : List String :=
  ["vendor", "node_modules", "target", "dist", "build", "__pycache__", "venv"]

/-- Whether directories of this name are passed over. -/
def isPassedOver (name : String) : Bool := name.startsWith "." || foreignDirectories.contains name

namespace FileTree

mutual

/-- The files of a tree, each as the names on the way to it. -/
def walk : FileTree → List (List String)
  | .file _ => [[]]
  | .directory es =>
    ((walkEntries es).mergeSort fun a b => !decide (b.1 < a.1)).flatMap fun e =>
      e.2.map (e.1 :: ·)

/-- The files below each entry of a directory. -/
def walkEntries : List (String × FileTree) → List (String × List (List String))
  | [] => []
  | (name, tree) :: es =>
    (name, if tree.isDirectory && isPassedOver name then [] else walk tree) :: walkEntries es

end

/-- The path of a file below `root`. -/
def pathBelow (root : String) (names : List String) : String :=
  if names.isEmpty then root
  else if root.endsWith "/" then root ++ "/".intercalate names
  else root ++ "/" ++ "/".intercalate names

/-- Whether a file is reviewed: it is not excluded by the path below the root, and it belongs to the
wanted language, or to any if none is wanted. -/
def isWanted (registry : Registry) (isExcluded : String → Bool) (language : Option String)
    (root : String) (names : List String) : Bool :=
  !isExcluded ("/".intercalate names) &&
    match registry.detect? (pathBelow root names) with
    | none => false
    | some found => language.all fun wanted => wanted.map Char.toLower == found.map Char.toLower

/-- The paths of the files of a tree that are reviewed. -/
def collect (registry : Registry) (isExcluded : String → Bool) (language : Option String)
    (root : String) (tree : FileTree) : List String :=
  (tree.walk.filter (isWanted registry isExcluded language root)).map (pathBelow root)

end FileTree

end SourceReview
