import SourceReview.Total

/-!
# Outlines

The outline of a source text lists its functions and classes with the lines they extend over, and
the names it imports and exports.
-/

namespace SourceReview

/-- A function or method. -/
structure FunctionEntry where
  name : String
  /-- The first line, counted from one. -/
  line : Nat
  /-- The last line of the body. -/
  endLine : Nat
  parameters : Nat
  /-- The complexity of the function alone. -/
  complexity : UInt32
  isAsync : Bool
  deriving DecidableEq, Repr

/-- The number of lines from the first to the last. -/
def FunctionEntry.length (f : FunctionEntry) : Nat := f.endLine - f.line + 1

/-- A class, or another type that has methods. -/
structure ClassEntry where
  name : String
  line : Nat
  endLine : Nat
  methodCount : Nat
  deriving DecidableEq, Repr

/-- Whether a function begins inside the class. -/
def ClassEntry.holds (c : ClassEntry) (f : FunctionEntry) : Bool :=
  c.line < f.line && f.line ≤ c.endLine

/-- The outline of a source text. -/
structure Outline where
  functions : List FunctionEntry := []
  classes : List ClassEntry := []
  /-- Imported names in order of appearance, with repetitions. -/
  imports : List String := []
  exports : List String := []
  deriving DecidableEq, Repr

namespace Outline

/-- The outlines of two texts, one after the other. -/
def append (a b : Outline) : Outline :=
  ⟨a.functions ++ b.functions, a.classes ++ b.classes, a.imports ++ b.imports,
    a.exports ++ b.exports⟩

instance : Append Outline := ⟨append⟩

/-- The outlines of several texts, one after the other. -/
def concat (parts : List Outline) : Outline :=
  ⟨parts.flatMap (·.functions), parts.flatMap (·.classes), parts.flatMap (·.imports),
    parts.flatMap (·.exports)⟩

/-- The mean length of the functions in lines, and zero if there are none. -/
def meanFunctionLength (o : Outline) : Float :=
  if o.functions.isEmpty then 0
  else Float.ofNat (total (o.functions.map (·.length))) / Float.ofNat o.functions.length

/-- The imported names, each at its first appearance. -/
def distinctImports (o : Outline) : List String := o.imports.eraseDups

/-- The first of the shortest classes among those that satisfy `p`, with its position. -/
def shortest? (p : ClassEntry → Bool) : List (ClassEntry × Nat) → Option (ClassEntry × Nat)
  | [] => none
  | (c, i) :: rest =>
    match shortest? p rest with
    | none => if p c then some (c, i) else none
    | some (d, j) =>
      if p c && c.endLine - c.line ≤ d.endLine - d.line then some (c, i) else some (d, j)

/-- The innermost class that a function begins in, with its position. -/
def owner? (o : Outline) (f : FunctionEntry) : Option (ClassEntry × Nat) :=
  shortest? (·.holds f) o.classes.zipIdx

/-- Whether a function begins inside another function of the class `c`. -/
def isNested (o : Outline) (c : ClassEntry) (f : FunctionEntry) : Bool :=
  o.functions.any fun outer => c.line < outer.line && outer.line < f.line && f.line ≤ outer.endLine

/-- Whether a function is a method of the class at position `i`: the class is its innermost one,
and it is not nested in another function there. -/
def isMethodOf (o : Outline) (i : Nat) (f : FunctionEntry) : Bool :=
  match o.owner? f with
  | some (c, j) => i == j && !o.isNested c f
  | none => false

/-- The outline with each class credited with its methods. -/
def withMethodCounts (o : Outline) : Outline :=
  { o with
    classes := o.classes.mapIdx fun i c =>
      { c with methodCount := o.functions.countP (o.isMethodOf i) } }

end Outline

end SourceReview
