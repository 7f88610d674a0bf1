import SourceReview.FileTree.Basic
import SourceReview.Glob.Match
import SourceReview.Glob.Parser
import SourceReview.Registry.Basic

/-!
# Configurations

A configuration sets options below those of every caller, changes what is registered for languages,
and excludes paths from the walk through a directory. It is checked as a whole before it is used.
-/

namespace SourceReview

/-- Changes to the registration of a language. -/
structure RegistrationChange where
  /-- The rules in place of the registered ones. -/
  rules : Option (List String) := none
  /-- The thresholds that lie over the registered ones. -/
  thresholds : Option Thresholds := none
  /-- Extensions beside the registered ones. -/
  extensions : List String := []

structure Config where
  version : String := ""
  options : Options := {}
  languages : Table RegistrationChange := {}
  /-- The patterns of paths that are passed over. -/
  excludedPaths : List String := []

/-- Why a configuration cannot be used. -/
inductive ConfigError where
  | unreadable (path : String) (fault : FileFault)
  | notYaml (path : String)
  | notJson (path : String)
  | invalidOptions (e : ThresholdError)
  | unnamedLanguage
  | invalidThresholds (language : String) (e : ThresholdError)
  | emptyExtension (extension language : String)
  | invalidPattern (pattern : String) (e : GlobError)
  | unknownLanguage (language : String)

/-- The text of a complaint about a configuration. -/
def ConfigError.message : ConfigError → String
  | .unreadable path fault => "failed to read config " ++ path ++ ": " ++ fault.message
  | .notYaml path => "invalid YAML in " ++ path
  | .notJson path => "invalid JSON in " ++ path
  | .invalidOptions e => "invalid options.thresholds: " ++ e.message
  | .unnamedLanguage => "language override with an empty name"
  | .invalidThresholds language e =>
    "invalid thresholds for language " ++ Text.quoted language ++ ": " ++ e.message
  | .emptyExtension extension language =>
    "empty extension " ++ Text.quoted extension ++ " for language " ++ Text.quoted language
  | .invalidPattern pattern e =>
    "invalid excluded_paths pattern " ++ Text.quoted pattern ++ ": " ++ e.message
  | .unknownLanguage language => "config overrides unknown language " ++ Text.quoted language

/-- The globs of a list of patterns, or the first pattern that is not a glob. -/
def parseGlobs (patterns : List String) : Except ConfigError (List Glob) :=
  patterns.mapM fun p => (Glob.parse p).mapError (.invalidPattern p)

namespace RegistrationChange

/-- Checks the changes for a language. -/
def validate (language : String) (o : RegistrationChange) : Except ConfigError Unit := do
  if (Text.trim language.toList).isEmpty then throw .unnamedLanguage
  ((o.thresholds.getD {}).validate).mapError (.invalidThresholds language)
  match o.extensions.find? fun e => (Text.trim e.toList).isEmpty with
  | some e => throw (.emptyExtension e language)
  | none => return

/-- The registration of a language after the changes. -/
def apply (o : RegistrationChange) (config : Registration) : Registration :=
  { config with
    defaultRules := o.rules.getD config.defaultRules
    defaultThresholds := (o.thresholds.getD {}).layeredOver config.defaultThresholds
    extensions := config.extensions ++ o.extensions }

end RegistrationChange

namespace Config

/-- Checks a configuration: its options, then the changes for each language by name, then the
patterns of excluded paths. -/
def validate (c : Config) : Except ConfigError Unit := do
  c.options.validate.mapError .invalidOptions
  c.languages.sorted.forM fun (language, o) => o.validate language
  discard (parseGlobs c.excludedPaths)

/-- Registers a language anew with the changes for it. -/
def applyChange (r : Registry) (change : String × RegistrationChange) :
    Except ConfigError Registry :=
  match r.registration? change.1 with
  | some config => .ok (r.register (change.2.apply config))
  | none => .error (.unknownLanguage change.1)

/-- The registry after the changes for each language, by name. -/
def applyTo (c : Config) (r : Registry) : Except ConfigError Registry :=
  c.languages.sorted.foldlM applyChange r

/-- The globs of excluded paths. A pattern that is not a glob excludes nothing. -/
def exclusions (c : Config) : List Glob :=
  c.excludedPaths.filterMap fun p => (Glob.parse p).toOption

/-- Whether a path is excluded. -/
def isExcluded (c : Config) (path : String) : Bool := Glob.anyMatch c.exclusions path

end Config

end SourceReview
