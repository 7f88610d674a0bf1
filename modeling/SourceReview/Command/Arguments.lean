import SourceReview.Decimal.Reading
import SourceReview.Finding.Issue
import SourceReview.Text.Segment

/-!
# The command line

The command line names a command and its settings. A setting has a long name after two dashes, some
have a letter after one dash as well; its value follows in the same word after an equals sign, after
the letter, or in the next word. What follows two dashes alone is a path, whatever it looks like.

A setting whose value is still to come is kept apart, and is taken up when the next setting begins.
-/

namespace SourceReview.Command

/-- A setting of a command. -/
inductive Setting where
  | verbose
  | help
  | version
  | config
  | format
  | language
  | rules
  | complexityThreshold
  | noSuggestions
  | skipDependencies
  | failOn
  /-- The paths, which have no name. -/
  | paths
  deriving DecidableEq, Repr

/-- Why a command line does not say what to do. -/
inductive UsageError where
  /-- Help is asked for. -/
  | help
  /-- The version is asked for. -/
  | version
  /-- The command line is empty. -/
  | empty
  | noCommand
  | unknownCommand (word : String)
  | unknownArgument (word : String)
  | repeated (setting : Setting)
  /-- A setting that has no value is given one. -/
  | needlessValue (setting : Setting)
  /-- A value is missing, empty or none of the choices. -/
  | noSuchValue (setting : Setting)
  /-- A value cannot be read. -/
  | unreadableValue (setting : Setting)
  | noPaths
  deriving DecidableEq, Repr

/-- The exit code after a command line that does not say what to do. -/
def UsageError.exitCode : UsageError → Nat
  | .help => 0
  | .version => 0
  | _ => 2

/-- The name by which complaints call a setting. -/
def Setting.label : Setting → String
  | .verbose => "--verbose"
  | .help => "--help"
  | .version => "--version"
  | .config => "--config"
  | .format => "--format"
  | .language => "--language"
  | .rules => "--rules"
  | .complexityThreshold => "--complexity-threshold"
  | .noSuggestions => "--no-suggestions"
  | .skipDependencies => "--skip-dependencies"
  | .failOn => "--fail-on"
  | .paths => "<PATHS>..."

/-- The text of a complaint about a command line. -/
def UsageError.message : UsageError → String
  | .help => ""
  | .version => ""
  | .empty => "a command is missing"
  | .noCommand => "a command is missing"
  | .unknownCommand word => "unrecognized subcommand '" ++ word ++ "'"
  | .unknownArgument word => "unexpected argument '" ++ word ++ "' found"
  | .repeated s => "the argument '" ++ s.label ++ "' cannot be used multiple times"
  | .needlessValue s => "the argument '" ++ s.label ++ "' takes no value"
  | .noSuchValue s => "a value of '" ++ s.label ++ "' is missing or not one of its choices"
  | .unreadableValue s => "a value of '" ++ s.label ++ "' is invalid"
  | .noPaths => "the following required arguments were not provided: <PATHS>..."

/-- How results are shown. -/
inductive Format where
  | pretty
  | json
  deriving DecidableEq, Repr

/-- What a review is asked to do. -/
structure ReviewRequest where
  paths : List String := []
  config : Option String := none
  format : Format := .pretty
  /-- The language in which all files are reviewed. -/
  language : Option String := none
  rules : Option (List String) := none
  complexityThreshold : Option Float := none
  noSuggestions : Bool := false
  skipDependencies : Bool := false
  /-- The least severity at which an issue makes the run fail. -/
  failOn : Option Severity := none

/-- What the command line asks for. -/
inductive Action where
  | review (request : ReviewRequest)
  | listLanguages

/-! ### Settings -/

/-- Where settings are read: before the command or after it. -/
inductive Scope where
  | program
  | review
  | listLanguages
  deriving DecidableEq, Repr

namespace Setting

/-- Whether the setting has a value. -/
def takesValue : Setting → Bool
  | .config | .format | .language | .rules | .complexityThreshold | .failOn | .paths => true
  | _ => false

/-- Whether the setting may be given more than once. -/
def isRepeatable : Setting → Bool
  | .rules | .paths => true
  | _ => false

/-- Whether the setting is known in a scope. -/
def isKnown : Scope → Setting → Bool
  | _, .verbose => true
  | _, .help => true
  | .program, .version => true
  | .program, _ => false
  | .listLanguages, _ => false
  | .review, .version => false
  | .review, _ => true

/-- The setting of a long name. -/
def ofName? : String → Option Setting
  | "verbose" => some .verbose
  | "help" => some .help
  | "version" => some .version
  | "config" => some .config
  | "format" => some .format
  | "language" => some .language
  | "rules" => some .rules
  | "complexity-threshold" => some .complexityThreshold
  | "no-suggestions" => some .noSuggestions
  | "skip-dependencies" => some .skipDependencies
  | "fail-on" => some .failOn
  | _ => none

/-- The setting of a letter. -/
def ofLetter? : Char → Option Setting
  | 'v' => some .verbose
  | 'h' => some .help
  | 'V' => some .version
  | 'c' => some .config
  | 'f' => some .format
  | 'l' => some .language
  | 'r' => some .rules
  | _ => none

end Setting

/-! ### Reading settings -/

/-- A request that is being read. -/
structure Draft where
  request : ReviewRequest := {}
  /-- The settings that have been given. -/
  given : List Setting := []
  /-- A setting with its values so far, which has not been taken up yet. -/
  pending : Option (Setting × List String) := none

namespace Draft

/-- The request with a setting at the given values. -/
def requestWith (r : ReviewRequest) (s : Setting) (values : List String) :
    Except UsageError ReviewRequest :=
  let value := values.headD ""
  match s with
  | .verbose => .ok r
  | .help => .error .help
  | .version => .error .version
  | .config =>
    if value = "" then .error (.noSuchValue s) else .ok { r with config := some value }
  | .format =>
    if value = "pretty" then .ok { r with format := .pretty }
    else if value = "json" then .ok { r with format := .json }
    else .error (.noSuchValue s)
  | .language => .ok { r with language := some value }
  | .rules =>
    let rules := values.flatMap fun v =>
      (Text.splitBy (· == ',') v.toList).map String.ofList
    .ok { r with rules := some (r.rules.getD [] ++ rules) }
  | .complexityThreshold =>
    match Decimal.parse? value.toList with
    | some x => .ok { r with complexityThreshold := some x }
    | none => .error (.unreadableValue s)
  | .noSuggestions => .ok { r with noSuggestions := true }
  | .skipDependencies => .ok { r with skipDependencies := true }
  | .failOn =>
    match Severity.ofName? value with
    | some severity => .ok { r with failOn := some severity }
    | none => .error (.unreadableValue s)
  | .paths =>
    if values.contains "" then .error (.noSuchValue s)
    else .ok { r with paths := r.paths ++ values }

/-- Takes up a setting with its values. -/
def give (d : Draft) (s : Setting) (values : List String) : Except UsageError Draft :=
  if s.takesValue && values.isEmpty then .error (.noSuchValue s)
  else if !s.isRepeatable && d.given.contains s then .error (.repeated s)
  else (requestWith d.request s values).map fun request =>
    { d with request, given := s :: d.given }

/-- Takes up the setting that is pending. -/
def settle (d : Draft) : Except UsageError Draft :=
  match d.pending with
  | none => .ok d
  | some (s, values) => { d with pending := none }.give s values

/-- Begins a setting whose value is to come. -/
def await (d : Draft) (s : Setting) : Except UsageError Draft :=
  d.settle.map fun d => { d with pending := some (s, []) }

/-- Adds a value to the setting that is pending. -/
def addValue (d : Draft) (value : String) : Draft :=
  { d with pending := d.pending.map fun (s, values) => (s, values ++ [value]) }

/-- Adds a path. Paths in a row are taken up together. -/
def addPath (d : Draft) (path : String) : Except UsageError Draft :=
  match d.pending with
  | some (.paths, _) => .ok (d.addValue path)
  | _ => (d.await .paths).map fun d => d.addValue path

/-- Reads a setting by its long name, after the dashes. Also tells whether its value is to come. -/
def readName (scope : Scope) (d : Draft) (word : List Char) : Except UsageError (Draft × Bool) :=
  let name := String.ofList (word.takeWhile (· != '='))
  let value? :=
    match word.dropWhile (· != '=') with
    | [] => none
    | _ :: value => some (String.ofList value)
  match (Setting.ofName? name).filter (·.isKnown scope) with
  | none => .error (.unknownArgument (String.ofList word))
  | some s =>
    match value?, s.takesValue with
    | some value, true => do return (← (← d.settle).give s [value], false)
    | some _, false => .error (.needlessValue s)
    | none, true => do return (← d.await s, true)
    | none, false => do return (← (← d.settle).give s [], false)

/-- Reads settings by their letters, after the dash. Also tells whether the value of the last one is
to come. -/
def readLetters (scope : Scope) (d : Draft) : List Char → Except UsageError (Draft × Bool)
  | [] => .ok (d, false)
  | c :: cs =>
    match (Setting.ofLetter? c).filter (·.isKnown scope) with
    | none => .error (.unknownArgument (String.singleton c))
    | some s =>
      if s.takesValue then
        match cs with
        | [] => do return (← d.await s, true)
        | '=' :: value => do return (← (← d.settle).give s [String.ofList value], false)
        | value => do return (← (← d.settle).give s [String.ofList value], false)
      else
        match d.settle.bind (·.give s []) with
        | .ok d => readLetters scope d cs
        | .error e => .error e

/-- The words that name commands. -/
def commandWords : List String := ["analyze", "check", "languages", "help"]

/-- Reads a word that is neither a setting nor a value. Only a review takes one, as a path. -/
def readWord (scope : Scope) (isLiteral : Bool) (d : Draft) (word : String) :
    Except UsageError Draft :=
  match scope with
  | .review => d.addPath word
  | .listLanguages => .error (.unknownArgument word)
  | .program =>
    if isLiteral && commandWords.contains word then .error (.unknownArgument word)
    else .error (.unknownCommand word)

/-- Reads the words of a command line. `isAwaited` tells whether a value is to come, and `isLiteral`
whether two dashes alone came before. Before the command, reading ends with the word that names it,
which is returned with the words after it. -/
def read (scope : Scope) (isAwaited isLiteral : Bool) (d : Draft) :
    List String → Except UsageError (Draft × Option (String × List String))
  | [] => d.settle.map fun d => (d, none)
  | word :: words =>
    if isLiteral then
      match d.readWord scope true word with
      | .ok d => read scope false true d words
      | .error e => .error e
    else if scope = .program && commandWords.contains word then .ok (d, some (word, words))
    else
      match word.toList with
      | ['-', '-'] => read scope false true d words
      | '-' :: '-' :: name =>
        match d.readName scope name with
        | .ok (d, isAwaited) => read scope isAwaited false d words
        | .error e => .error e
      | '-' :: c :: letters =>
        match d.readLetters scope (c :: letters) with
        | .ok (d, isAwaited) => read scope isAwaited false d words
        | .error e => .error e
      | _ =>
        if isAwaited then read scope false false (d.addValue word) words
        else
          match d.readWord scope false word with
          | .ok d => read scope false false d words
          | .error e => .error e

end Draft

/-! ### Commands -/

/-- Why help on the given words is shown or not. -/
def helpOn : List String → UsageError
  | [] => .help
  | [word] => if Draft.commandWords.contains word then .help else .unknownCommand word
  | word :: next :: _ =>
    if Draft.commandWords.contains word then .unknownCommand next else .unknownCommand word

/-- What a command line asks for. -/
def parse (words : List String) : Except UsageError Action := do
  match ← Draft.read .program false false {} words with
  | (d, none) => throw (if d.given.isEmpty then .empty else .noCommand)
  | (_, some (word, words)) =>
    if word = "help" then throw (helpOn words)
    else if word = "languages" then
      let _ ← Draft.read .listLanguages false false {} words
      return .listLanguages
    else
      let (d, _) ← Draft.read .review false false {} words
      if d.request.paths.isEmpty then throw .noPaths
      return .review d.request

end SourceReview.Command
