import SourceReview.Command.Run
import Std.Time.DateTime.Timestamp

/-!
# The program

Reads what a command needs from the disk, runs it, and prints what it says.
-/

namespace SourceReview.Program

open Command

/-- The lines of the help text. -/
def usage : String :=
  "Usage: " ++ Report.programName ++ " [-v] <COMMAND>\n\nCommands:\n" ++
    "  analyze <PATHS>...  Analyze files or directories [aliases: check]\n" ++
    "    -c, --config <CONFIG>\n    -f, --format <pretty|json>\n    -l, --language <LANGUAGE>\n" ++
    "    -r, --rules <RULES>\n    --complexity-threshold <NUMBER>\n    --no-suggestions\n" ++
    "    --skip-dependencies\n    --fail-on <low|medium|high|critical>\n" ++
    "  languages           List supported languages, extensions and rules\n" ++
    "  help                Print this message\n"

/-- Why reading failed. -/
def faultOf : IO.Error → FileFault
  | .noFileOrDirectory .. => .notFound
  | .inappropriateType .. => .notDirectory
  | .permissionDenied .. => .denied
  | _ => .notFound

/-- What stands at a path of the disk. The bytes of files are left out unless they are wanted. -/
partial def treeAt (withBytes : Bool) (path : String) : IO FileTree := do
  let place := (← IO.currentDir) / path
  if (← place.metadata).type == .dir then
    let mut entries := []
    for entry in ← place.readDir do
      let inner := path ++ "/" ++ entry.fileName
      if !(isPassedOver entry.fileName && (← entry.path.isDir)) then
        entries := (entry.fileName, ← treeAt withBytes inner) :: entries
    return .directory entries
  else if withBytes then return .file (← IO.FS.readBinFile place).toList
  else return .file []

/-- What stands at each of the given paths. -/
def readPaths (withBytes : Bool) (paths : List String) :
    IO (List (String × Except FileFault FileTree)) :=
  paths.mapM fun path => do
    try
      if path = "" then return (path, .error .notFound)
      else return (path, .ok (← treeAt withBytes path))
    catch e => return (path, .error (faultOf e))

/-- The disk with the given trees on it. -/
def diskOf (trees : List (String × Except FileFault FileTree)) : Disk := fun path =>
  (trees.lookup path).getD (.error .notFound)

/-- The surroundings of a run: the configuration, and the files that it reviews. -/
def setupFor (request : ReviewRequest) : IO Setup := do
  let configs ← readPaths true (request.config.toList ++ Config.fileNames)
  let trees ← readPaths false request.paths
  let now ← Std.Time.Timestamp.now
  let output ← IO.getStdout
  let setup : Setup :=
    { disk := diskOf (configs ++ trees)
      directory := (← IO.currentDir).toString
      now := ⟨now.val.second.val, now.val.nano.val.toNat⟩
      color := (← output.isTty) && (← IO.getEnv "NO_COLOR").isNone }
  match plan setup request with
  | .error _ => return setup
  | .ok p => return { setup with disk := diskOf ((← readPaths true p.files) ++ configs ++ trees) }

/-- Acts, and prints what there is to say. -/
def execute (action : Action) : IO UInt32 := do
  let setup ←
    match action with
    | .review request => setupFor request
    | .listLanguages => setupFor {}
  let outcome := action.run setup
  (← IO.getStdout).putStr outcome.output
  (← IO.getStderr).putStr outcome.complaint
  return outcome.exitCode.toUInt32

end SourceReview.Program

open SourceReview in
/-- Does what the command line asks for. -/
def main (words : List String) : IO UInt32 := do
  match Command.parse words with
  | .ok action => Program.execute action
  | .error e =>
    match e with
    | .help => IO.print Program.usage
    | .version => IO.println (Report.programName ++ " " ++ Report.programVersion)
    | .empty => IO.eprint Program.usage
    | e => IO.eprintln ("error: " ++ e.message)
    return e.exitCode.toUInt32
