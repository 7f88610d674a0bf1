import SourceReview.Registry.Basic

/-!
# Reviewing through a registry

Texts are reviewed by the name of their language, files by their extension. A source says what the
text of a file is; reviewing never reads anything itself. An engine adds options that lie below
those of its callers.

Every operation returns the registry as well, since asking for a language puts its analyzer in use.
-/

namespace SourceReview

/-- The text of a file, or the reason why it cannot be read. -/
abbrev Source := String → Except String String

/-- A source of texts that are kept under their paths, of which the last one added counts. -/
def Source.ofFiles (files : List (String × String)) : Source := fun path =>
  match (files.reverse.find? fun file => Path.steps file.1 == Path.steps path) with
  | some file => .ok file.2
  | none => .error ("no in-memory source for " ++ path)

/-- The label of a text that has no path. -/
def inlineLabel (language : String) : String := "<inline>." ++ language

namespace Registry

/-- Reviews a text in a language. `path` only labels the result. -/
def reviewText (r : Registry) (text language : String) (path : Option String)
    (options : Options) : Except ReviewError Review × Registry :=
  match r.resolve language with
  | (.error e, r) => (.error e, r)
  | (.ok b, r) => (Review.ofText b (path.getD (inlineLabel b.name)) options text, r)

/-- Reviews a file in the language of its extension. -/
def reviewFile (r : Registry) (source : Source) (path : String) (options : Options) :
    Except ReviewError Review × Registry :=
  match r.detect? path with
  | none => (.error (.unsupportedFileType path), r)
  | some language =>
    match r.resolve language with
    | (.error e, r) => (.error e, r)
    | (.ok b, r) =>
      match source path with
      | .error reason => (.error (.unreadable path reason), r)
      | .ok text => (Review.ofText b path options text, r)

/-- Reviews files, leaving out those that fail. -/
def reviewFiles (r : Registry) (source : Source) (paths : List String) (options : Options) :
    List Review × Registry :=
  match paths with
  | [] => ([], r)
  | path :: paths =>
    let (outcome, r) := r.reviewFile source path options
    let (reviews, r) := r.reviewFiles source paths options
    (outcome.toOption.toList ++ reviews, r)

end Registry

/-- A registry, a source of texts, and options that lie below those of every caller. -/
structure Engine where
  registry : Registry
  source : Source
  defaults : Options := {}

namespace Engine

/-- Reviews a text in a language. `path` only labels the result. -/
def reviewText (e : Engine) (text language : String) (path : Option String) (options : Options) :
    Except ReviewError Review × Engine :=
  let (outcome, registry) :=
    e.registry.reviewText text language path (options.layeredOver e.defaults)
  (outcome, { e with registry })

/-- Reviews a file in the language of its extension. -/
def reviewFile (e : Engine) (path : String) (options : Options) :
    Except ReviewError Review × Engine :=
  let (outcome, registry) :=
    e.registry.reviewFile e.source path (options.layeredOver e.defaults)
  (outcome, { e with registry })

/-- Reviews a file in a given language, whatever its extension. -/
def reviewFileAs (e : Engine) (path language : String) (options : Options) :
    Except ReviewError Review × Engine :=
  match e.source path with
  | .error reason => (.error (.unreadable path reason), e)
  | .ok text => e.reviewText text language (some path) options

/-- Reviews files in order, leaving out those that fail. -/
def reviewFiles (e : Engine) (paths : List String) (options : Options) : List Review × Engine :=
  let (reviews, registry) :=
    e.registry.reviewFiles e.source paths (options.layeredOver e.defaults)
  (reviews, { e with registry })

/-- Reviews files one at a time, each with the options of the caller, leaving out those that
fail. -/
def reviewEach (e : Engine) (paths : List String) (options : Options) : List Review × Engine :=
  match paths with
  | [] => ([], e)
  | path :: paths =>
    let (outcome, e) := e.reviewFile path options
    let (reviews, e) := e.reviewEach paths options
    (outcome.toOption.toList ++ reviews, e)

end Engine

end SourceReview
