import SourceReview.Text.Segment
import SourceReview.Text.Utf8

/-!
# File trees

A file tree is a file with its bytes, or a directory with named entries. A view of a disk says what
stands at each path; nothing else is known about where the trees come from.
-/

namespace SourceReview

inductive FileTree where
  | file (bytes : List UInt8)
  | directory (entries : List (String × FileTree))

/-- Why a file cannot be read. -/
inductive FileFault where
  | notFound
  | notDirectory
  | isDirectory
  | denied
  | notText
  deriving DecidableEq, Repr

/-- The text of a complaint about a file. -/
def FileFault.message : FileFault → String
  | .notFound => "No such file or directory (os error 2)"
  | .notDirectory => "Not a directory (os error 20)"
  | .isDirectory => "Is a directory (os error 21)"
  | .denied => "Permission denied (os error 13)"
  | .notText => "stream did not contain valid UTF-8"

namespace FileTree

/-- A directory without entries. -/
def empty : FileTree := .directory []

/-- Whether the tree is a directory. -/
def isDirectory : FileTree → Bool
  | .directory _ => true
  | .file _ => false

/-- The entries of a directory. A file has none. -/
def entries : FileTree → List (String × FileTree)
  | .directory es => es
  | .file _ => []

/-- The tree with another one at the end of a series of names. Directories on the way are made, and
a directory that is already there stays where an empty one is put. -/
def put (names : List String) (leaf tree : FileTree) : FileTree :=
  match names with
  | [] =>
    match leaf, tree with
    | .directory [], .directory es => .directory es
    | leaf, _ => leaf
  | name :: names =>
    let inner := put names leaf ((tree.entries.lookup name).getD empty)
    .directory (tree.entries.filter (·.1 != name) ++ [(name, inner)])

/-- The pieces of a path between its slashes. -/
def pathPieces (path : String) : List String :=
  (Text.splitBy (· == '/') path.toList).map String.ofList

/-- The tree made of files at their paths. -/
def ofFiles (files : List (String × FileTree)) : FileTree :=
  files.foldl (fun tree file =>
    put ((pathPieces file.1).filter fun p => p != "" && p != ".") file.2 tree) empty

/-- What stands at the end of a series of pieces. `outer` are the directories around `tree`, the
innermost first. -/
def descend (outer : List FileTree) (tree : FileTree) : List String → Except FileFault FileTree
  | [] => .ok tree
  | piece :: pieces =>
    match tree with
    | .file _ => .error .notDirectory
    | .directory es =>
      if piece = "" || piece = "." then descend outer tree pieces
      else if piece = ".." then
        match outer with
        | parent :: outer => descend outer parent pieces
        | [] => .error .notFound
      else
        match es.lookup piece with
        | some inner => descend (tree :: outer) inner pieces
        | none => .error .notFound

/-- What stands at a path that begins in the tree. -/
def at? (tree : FileTree) (path : String) : Except FileFault FileTree :=
  if path = "" || path.startsWith "/" then .error .notFound else descend [] tree (pathPieces path)

end FileTree

/-- What stands at each path of a disk. -/
abbrev Disk := String → Except FileFault FileTree

namespace Disk

/-- Whether a file stands at a path. -/
def hasFile (disk : Disk) (path : String) : Bool :=
  match disk path with
  | .ok (.file _) => true
  | _ => false

/-- The bytes of the file at a path. -/
def bytes (disk : Disk) (path : String) : Except FileFault (List UInt8) :=
  match disk path with
  | .ok (.file bytes) => .ok bytes
  | .ok (.directory _) => .error .isDirectory
  | .error fault => .error fault

/-- The text of the file at a path, whose bytes have to be a text. -/
def text (disk : Disk) (path : String) : Except FileFault String := do
  match Text.Utf8.decode? (← disk.bytes path) with
  | some s => return s
  | none => throw .notText

end Disk

end SourceReview
