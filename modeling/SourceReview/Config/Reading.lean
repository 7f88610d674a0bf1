import SourceReview.Config.Basic
import SourceReview.Json.Parser
import SourceReview.Record.Options
import SourceReview.Yaml.Reading

/-!
# Configuration files

A configuration file holds YAML, or JSON if its extension says so. If no file is given, the first of
a few names that stands in the working directory is taken.
-/

namespace SourceReview

variable {ν : Type} [Readable ν]

namespace RegistrationChange

/-- Reads the changes for a language. -/
def read (v : ν) : Option RegistrationChange := do
  let fields ← Record.fields? ["rules", "thresholds", "extensions"] v
  return {
    rules := ← Record.optionalField fields "rules" Record.texts
    thresholds := ← Record.optionalField fields "thresholds" Thresholds.read
    extensions := ← Record.withDefault fields "extensions" [] Record.texts }

/-- The changes for a language as a JSON value. -/
def toJson (o : RegistrationChange) : Json :=
  .obj [("rules", (o.rules.map .ofTexts).getD .null),
    ("thresholds", (o.thresholds.map (·.toJson)).getD .null),
    ("extensions", .ofTexts o.extensions)]

end RegistrationChange

namespace Config

/-- Reads the changes for each language. Of two changes for one name the later counts. -/
def readLanguages (v : ν) : Option (Table RegistrationChange) := do
  let members ← asMembers? v
  let changes ← members.mapM fun m => (RegistrationChange.read m.2).map fun o => (m.1, o)
  return changes.foldl (fun t c => t.insert c.1 c.2) {}

/-- Reads a configuration. -/
def read (v : ν) : Option Config := do
  let fields ← Record.fields? ["version", "options", "languages", "excluded_paths"] v
  return {
    version := ← Record.withDefault fields "version" "" asText?
    options := ← Record.withDefault fields "options" {} Options.read
    languages := ← Record.withDefault fields "languages" {} readLanguages
    excludedPaths := ← Record.withDefault fields "excluded_paths" [] Record.texts }

/-- A configuration as a JSON value. -/
def toJson (c : Config) : Json :=
  .obj [("version", .str c.version), ("options", c.options.toJson),
    ("languages", .obj (c.languages.sorted.map fun (language, o) => (language, o.toJson))),
    ("excluded_paths", .ofTexts c.excludedPaths)]

/-- Whether a path leads to a JSON file. -/
def isJsonPath (path : String) : Bool :=
  (Path.extension? path).any fun e => e.map Char.toLower == "json"

/-- Reads a configuration from the text of the file at `path`. -/
def ofText (path text : String) : Except ConfigError Config :=
  if isJsonPath path then
    match (Json.parse? text).bind read with
    | some c => .ok c
    | none => .error (.notJson path)
  else
    match (Yaml.Node.parse? text.toList).bind read with
    | some c => .ok c
    | none => .error (.notYaml path)

/-- The names of configuration files, the first choice first. -/
def fileNames : List String :=
  ["codelens.yaml", "codelens.yml", ".codelens.yaml", ".codelens.yml", "codelens.json"]

/-- The configuration file in the working directory. -/
def discover? (disk : Disk) : Option String := fileNames.find? disk.hasFile

/-- Reads the configuration file at a path, which complaints call `label`. -/
def readFile (disk : Disk) (path label : String) : Except ConfigError Config := do
  let text ← (disk.text path).mapError (.unreadable label)
  ofText label text

/-- The configuration at the given path, or else the one in the working directory, or else the empty
one; checked. Complaints name the working directory by `directory`. -/
def load (disk : Disk) (path : Option String) (directory : String) : Except ConfigError Config := do
  let config ←
    match path with
    | some path => readFile disk path path
    | none =>
      match discover? disk with
      | some name => readFile disk name (directory ++ "/" ++ name)
      | none => .ok {}
  config.validate
  return config

end Config

end SourceReview
