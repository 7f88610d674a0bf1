import SourceReview.Command.Arguments
import SourceReview.Config.Reading
import SourceReview.FileTree.Collect
import SourceReview.Registry.Engine
import SourceReview.Report.Pretty
import SourceReview.Report.Structured

/-!
# Running commands

What a command prints and the exit code that it ends with, given what stands on the disk. A review
fails with 1 if an issue is as severe as the request asks for, with 2 if it cannot be done or if a
file has no result, and else succeeds with 0.
-/

namespace SourceReview

/-- Reviews files in a given language, leaving out those that fail. -/
def Engine.reviewFilesAs (e : Engine) (paths : List String) (language : String)
    (options : Options) : List Review × Engine :=
  match paths with
  | [] => ([], e)
  | path :: paths =>
    let (outcome, e) := e.reviewFileAs path language options
    let (reviews, e) := e.reviewFilesAs paths language options
    (outcome.toOption.toList ++ reviews, e)

namespace Command

/-- What a run prints, and its exit code. -/
structure Outcome where
  exitCode : Nat := 0
  output : String := ""
  complaint : String := ""
  deriving DecidableEq, Repr

/-- The surroundings of a run. -/
structure Setup where
  disk : Disk
  /-- The name of the working directory. -/
  directory : String
  /-- The date of the results. -/
  now : Timestamp
  /-- Whether texts are coloured. -/
  color : Bool := false

/-- The options that a request sets. Those that it does not set are left to lower layers. -/
def ReviewRequest.options (r : ReviewRequest) : Options where
  rules := r.rules
  thresholds := r.complexityThreshold.map fun x => { complexity := some (.single x) }
  includeSuggestions := if r.noSuggestions then some false else none
  skipDependencies := if r.skipDependencies then some true else none

/-- Why a review cannot be done. -/
inductive RunError where
  | config (e : ConfigError)
  | unsupportedLanguage (language : String)
  | invalidThreshold (e : ThresholdError)
  | inaccessible (path : String) (fault : FileFault)

/-- The lines that complain about a review that cannot be done. -/
def RunError.message : RunError → String
  | .config e => "Error: " ++ e.message ++ "\n"
  | .unsupportedLanguage language =>
    "Error: unsupported language " ++ Text.quoted language ++ "\nRun '" ++ Report.programName ++
      " languages' to see supported languages\n"
  | .invalidThreshold e => "Error: " ++ e.message ++ "\n"
  | .inaccessible path fault =>
    "Error: cannot access path " ++ Text.quotedPath path ++ ": " ++ fault.message ++ "\n"

/-- A review that is ready to be done. -/
structure Plan where
  config : Config
  registry : Registry
  language : Option String
  options : Options
  files : List String

/-- The files of a path: those that are wanted of a directory, or the file itself. -/
def filesOf (disk : Disk) (registry : Registry) (exclusions : List Glob) (language : Option String)
    (path : String) : Except RunError (List String) :=
  match disk path with
  | .error fault => .error (.inaccessible path fault)
  | .ok (.file _) => .ok [path]
  | .ok tree => .ok (tree.collect registry (Glob.anyMatch exclusions) language path)

/-- Prepares a review: loads the configuration, checks the request and collects the files. -/
def plan (setup : Setup) (request : ReviewRequest) : Except RunError Plan := do
  let config ← (Config.load setup.disk request.config setup.directory).mapError .config
  let registry ← (config.applyTo .builtin).mapError .config
  let language := request.language.map Text.lowercase
  match language with
  | some l => if (registry.registration? l).isNone then throw (.unsupportedLanguage l)
  | none => pure ()
  request.options.validate.mapError .invalidThreshold
  let files ← request.paths.mapM (filesOf setup.disk registry config.exclusions language)
  return { config, registry, language, options := request.options, files := files.flatten }

/-- The texts of files. Bytes that are no text are replaced. -/
def sourceOf (disk : Disk) : Source := fun path =>
  match disk.bytes path with
  | .ok bytes => .ok (Text.Utf8.decodeLossy bytes)
  | .error fault => .error fault.message

/-- The reviews of the files of a plan. -/
def Plan.reviews (p : Plan) (disk : Disk) : List Review :=
  let engine : Engine := ⟨p.registry, sourceOf disk, p.config.options⟩
  match p.language with
  | some l => (engine.reviewFilesAs p.files l p.options).1
  | none => (engine.reviewFiles p.files p.options).1

/-- The exit code after a report. -/
def exitCode (failOn : Option Severity) (files : List String) (reviews : List Review) : Nat :=
  if failOn.any fun s => 0 < (Summary.ofReviews reviews).countFrom s then 1
  else if reviews.length < files.length then 2
  else 0

/-- The report on the reviews of a plan. -/
def Plan.report (p : Plan) (setup : Setup) (format : Format) (reviews : List Review) : String :=
  match format with
  | .json => Report.json (reviews.map fun r => { r with timestamp := setup.now })
  | .pretty =>
    Report.pretty setup.color (p.options.layeredOver p.config.options).wantsSuggestions reviews

/-- Reviews files and reports on them. -/
def runReview (setup : Setup) (request : ReviewRequest) : Outcome :=
  match plan setup request with
  | .error e => { exitCode := 2, complaint := e.message }
  | .ok p =>
    if p.files.isEmpty then { complaint := "Warning: no files to analyze\n" }
    else
      let reviews := p.reviews setup.disk
      { exitCode := exitCode request.failOn p.files reviews
        output := p.report setup request.format reviews }

/-- What a rule of a language looks for. -/
def describeRule (analyzer : Option Analyzer) (rule : String) : String :=
  (StructuralRule.describe? rule <|> analyzer.bind (·.describe rule)).getD ""

/-- The lines on a language: its extensions, then its rules. -/
def languageLines (registry : Registry) (config : Registration) : List String :=
  let analyzer := (registry.analyzerFor config.name).1
  ["  " ++ Text.padded 12 config.name ++ " " ++
      " ".intercalate (config.extensions.map ("." ++ ·))] ++
    config.defaultRules.map (fun rule =>
      "    " ++ Text.padded 24 rule ++ " " ++ describeRule analyzer rule) ++ [""]

/-- Lists the known languages. -/
def runListLanguages : Outcome :=
  let registry := Registry.builtin
  let configs := registry.languageNames.filterMap registry.registration?
  let lines := ["Supported languages:", ""] ++ configs.flatMap (languageLines registry) ++
    ["Usage:", "  " ++ Report.programName ++ " analyze <PATH>... --rules <a,b> --format json"]
  { output := String.join (lines.map (· ++ "\n")) }

/-- Does what the command line asks for. -/
def Action.run (setup : Setup) : Action → Outcome
  | .review request => runReview setup request
  | .listLanguages => runListLanguages

end Command

end SourceReview
