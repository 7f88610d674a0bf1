import SourceReview.Language.Known
import SourceReview.Registry.Table
import SourceReview.Review.Basic
import SourceReview.Text.Lowercase
import SourceReview.Text.Path

/-!
# The registry of languages

A registry says which languages there are, which extensions belong to them, and which analyzers are
in use. Names and extensions are kept in lower case. An extension belongs to one language at most,
the one that claimed it last.

A call that can fail returns its outcome together with the registry after it.
-/

namespace SourceReview

/-- The registration of a language. -/
structure Registration where
  name : String
  /-- Extensions without the dot. -/
  extensions : List String := []
  /-- The analyzer that is put in use when the language is first asked for. -/
  analyzer : Option Analyzer := none
  defaultRules : List String := []
  defaultThresholds : Thresholds := {}

/-- The registration of a language with what its analyzer declares. -/
def Registration.ofAnalyzer (a : Analyzer) : Registration :=
  ⟨a.id, a.extensions, some a, a.defaultRules, a.thresholds⟩

/-- The registered languages, the language of each extension, and the analyzers in use. -/
structure Registry where
  languages : Table Registration := {}
  extensions : Table String := {}
  analyzers : Table Analyzer := {}

namespace Registry

/-- An extension in the form in which it is registered: without blanks around it and dots before
it, in lower case. -/
def normalExtension (ext : String) : String :=
  Text.lowercase (String.ofList (Text.dropLeading (· == '.') (Text.trim ext.toList)))

/-- The registration in the form in which it is kept. -/
def normalForm (config : Registration) : Registration :=
  { config with
    name := Text.lowercase config.name
    extensions := ((config.extensions.map normalExtension).filter (· != "")).eraseDups }

/-- Gives an extension to a language, taking it from the language that had it. -/
def assign (r : Registry) (ext language : String) : Registry :=
  let languages :=
    match r.extensions.get? ext with
    | some previous =>
      if previous = language then r.languages
      else
        r.languages.modify previous fun c => { c with extensions := c.extensions.filter (· != ext) }
    | none => r.languages
  { r with languages, extensions := r.extensions.insert ext language }

/-- Removes a language with its extensions and its analyzer, if it is registered. -/
def remove (r : Registry) (language : String) : Registry :=
  if r.languages.contains language then
    { languages := r.languages.erase language
      extensions := r.extensions.filter fun _ l => l != language
      analyzers := r.analyzers.erase language }
  else r

/-- Registers a language, in place of the one of the same name. -/
def register (r : Registry) (config : Registration) : Registry :=
  let config := normalForm config
  let r := config.extensions.foldl (assign · · config.name) (r.remove config.name)
  { r with languages := r.languages.insert config.name config }

/-- Gives one more extension to a registered language. -/
def addExtension (r : Registry) (ext language : String) : Except ReviewError Unit × Registry :=
  let normal := normalExtension ext
  let language := Text.lowercase language
  if normal = "" then (.error (.invalidExtension ext), r)
  else if !r.languages.contains language then (.error (.unsupportedLanguage language), r)
  else
    let r := r.assign normal language
    (.ok (),
      { r with
        languages := r.languages.modify language fun c =>
          if c.extensions.contains normal then c
          else { c with extensions := c.extensions ++ [normal] } })

/-- The language that a path belongs to by its extension. -/
def detect? (r : Registry) (path : String) : Option String :=
  (Path.extension? path).bind fun ext => r.extensions.get? (Text.lowercase ext)

/-- The registration of a language. -/
def registration? (r : Registry) (language : String) : Option Registration :=
  r.languages.get? (Text.lowercase language)

/-- Puts an analyzer in use for a registered language. -/
def useAnalyzer (r : Registry) (language : String) (a : Analyzer) :
    Except ReviewError Unit × Registry :=
  let language := Text.lowercase language
  if r.languages.contains language then
    (.ok (), { r with analyzers := r.analyzers.insert language a })
  else (.error (.unsupportedLanguage language), r)

/-- The analyzer of a language: the one in use or else the registered one, which is put in use. -/
def analyzerFor (r : Registry) (language : String) : Option Analyzer × Registry :=
  let language := Text.lowercase language
  match r.analyzers.get? language with
  | some a => (some a, r)
  | none =>
    match (r.languages.get? language).bind (·.analyzer) with
    | some a => (some a, { r with analyzers := r.analyzers.insert language a })
    | none => (none, r)

/-- The analyzer of a language together with its registered defaults. -/
def resolve (r : Registry) (language : String) : Except ReviewError Binding × Registry :=
  let name := Text.lowercase language
  match r.registration? name with
  | none => (.error (.unsupportedLanguage name), r)
  | some config =>
    match r.analyzerFor name with
    | (none, r) => (.error (.noAnalyzer name), r)
    | (some a, r) => (.ok ⟨name, a, config.defaultRules, config.defaultThresholds⟩, r)

/-- The registered languages, sorted. -/
def languageNames (r : Registry) : List String := r.languages.names

/-- The extensions with their languages, sorted. -/
def extensionPairs (r : Registry) : List (String × String) := r.extensions.sorted

/-- A registry as a text for diagnostics. -/
def text (r : Registry) : String :=
  "LanguageRegistry \x7b languages: " ++ Text.quotedList r.languageNames ++ " \x7d"

/-- The registry without languages. -/
def empty : Registry := {}

/-- The registry of the known languages. -/
def builtin : Registry :=
  (Language.known.map fun l => Registration.ofAnalyzer l.analyzer).foldl register empty

end Registry

end SourceReview
