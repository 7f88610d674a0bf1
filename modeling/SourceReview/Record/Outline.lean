import SourceReview.Outline.Basic
import SourceReview.Record.Readable

/-!
# Outlines as records
-/

namespace SourceReview

variable {ν : Type} [Readable ν]

namespace FunctionEntry

/-- Reads a function. -/
def read (v : ν) : Option FunctionEntry := do
  let fields ←
    Record.fields? ["name", "line", "end_line", "parameters", "complexity", "is_async"] v
  return {
    name := ← Record.required fields "name" asText?
    line := ← Record.required fields "line" Record.count
    endLine := ← Record.required fields "end_line" Record.count
    parameters := ← Record.required fields "parameters" Record.count
    complexity := ← Record.required fields "complexity" Record.word
    isAsync := ← Record.required fields "is_async" asFlag? }

/-- A function as a JSON value. -/
def toJson (f : FunctionEntry) : Json :=
  .obj [("name", .str f.name), ("line", .ofNat f.line), ("end_line", .ofNat f.endLine),
    ("parameters", .ofNat f.parameters), ("complexity", .ofNat f.complexity.toNat),
    ("is_async", .bool f.isAsync)]

end FunctionEntry

namespace ClassEntry

/-- Reads a class. -/
def read (v : ν) : Option ClassEntry := do
  let fields ← Record.fields? ["name", "line", "end_line", "method_count"] v
  return {
    name := ← Record.required fields "name" asText?
    line := ← Record.required fields "line" Record.count
    endLine := ← Record.required fields "end_line" Record.count
    methodCount := ← Record.required fields "method_count" Record.count }

/-- A class as a JSON value. -/
def toJson (c : ClassEntry) : Json :=
  .obj [("name", .str c.name), ("line", .ofNat c.line), ("end_line", .ofNat c.endLine),
    ("method_count", .ofNat c.methodCount)]

end ClassEntry

namespace Outline

/-- Reads an outline. -/
def read (v : ν) : Option Outline := do
  let fields ← Record.fields? ["functions", "classes", "imports", "exports"] v
  return {
    functions := ← Record.required fields "functions" (Record.list FunctionEntry.read)
    classes := ← Record.required fields "classes" (Record.list ClassEntry.read)
    imports := ← Record.required fields "imports" Record.texts
    exports := ← Record.required fields "exports" Record.texts }

/-- The members of an outline as a JSON value. -/
def members (o : Outline) : List (String × Json) :=
  [("functions", .arr (o.functions.map (·.toJson))), ("classes", .arr (o.classes.map (·.toJson))),
    ("imports", .ofTexts o.imports), ("exports", .ofTexts o.exports)]

/-- An outline as a JSON value. -/
def toJson (o : Outline) : Json := .obj o.members

end Outline

end SourceReview
