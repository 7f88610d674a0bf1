import SourceReview.Text.Segment

/-!
# Paths

A path is a text of names separated by slashes. Two paths name the same file if they have the same
steps: repeated slashes, a slash at the end and dots between slashes do not count.
-/

namespace SourceReview.Path

/-- One step of a path. -/
inductive Step where
  /-- To the root, for a slash at the beginning. -/
  | root
  /-- To the directory itself, for a dot at the beginning. -/
  | here
  /-- To the parent directory. -/
  | up
  /-- To an entry of the directory. -/
  | entry (name : List Char)
  deriving DecidableEq, Repr

/-- The step that a piece between slashes stands for, where it is not the first. -/
def stepOf? (piece : List Char) : Option Step :=
  if piece.isEmpty || piece = ['.'] then none
  else if piece = ['.', '.'] then some .up
  else some (.entry piece)

/-- The steps of a path. -/
def steps (path : String) : List Step :=
  match Text.splitBy (· == '/') path.toList with
  | [] => []
  | first :: pieces =>
    let rest := pieces.filterMap stepOf?
    if first.isEmpty then if pieces.isEmpty then [] else .root :: rest
    else if first = ['.'] then .here :: rest
    else (stepOf? first).toList ++ rest

/-- The name of the file or directory that a path leads to, if its last step is an entry. -/
def fileName? (path : String) : Option (List Char) :=
  match (steps path).getLast? with
  | some (.entry name) => some name
  | _ => none

/-- What follows the last dot of a file name, unless the dot is its first character. -/
def nameExtension? (name : List Char) : Option (List Char) :=
  let tail := name.reverse.takeWhile (· != '.')
  if tail.length + 1 < name.length then some tail.reverse else none

/-- The extension of the file that a path leads to. -/
def extension? (path : String) : Option String :=
  (fileName? path).bind fun name => (nameExtension? name).map String.ofList

end SourceReview.Path
