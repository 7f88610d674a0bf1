import SourceReview.Glob.Basic

/-!
# Reading globs

A question mark stands for any byte and a star for any text. Two stars that fill the place between
slashes stand for any number of directories. Brackets hold a class of characters, braces hold
alternatives between commas, and a backslash takes the meaning from the character after it.
-/

namespace SourceReview.Glob

/-- A class of characters that is being read. -/
structure ClassDraft where
  negated : Bool
  /-- Whether no character has been read yet. -/
  first : Bool := true
  /-- Whether a hyphen has been read that may begin the end of a range. -/
  inRange : Bool := false
  /-- The ranges read so far, the latest first. -/
  ranges : List (Char × Char) := []

namespace ClassDraft

/-- The class with its latest range extended up to `c`. -/
def extend (d : ClassDraft) (c : Char) : Except GlobFault ClassDraft :=
  match d.ranges with
  | (a, _) :: ranges =>
    if c < a then .error (.invalidRange a c)
    else .ok { d with first := false, inRange := false, ranges := (a, c) :: ranges }
  | [] => .ok d

/-- The class with one more character, or `none` if the character closes it. -/
def read (d : ClassDraft) (c : Char) : Except GlobFault (Option ClassDraft) :=
  let single := { d with first := false, ranges := (c, c) :: d.ranges }
  if c = ']' then
    if d.first then .ok (some single) else .ok none
  else if d.inRange then (d.extend c).map some
  else if c = '-' && !d.first then .ok (some { d with inRange := true })
  else .ok (some single)

/-- The finished class. A hyphen at its end stands for itself. -/
def part (d : ClassDraft) : GlobPart :=
  .oneOf d.negated (if d.inRange then d.ranges.reverse ++ [('-', '-')] else d.ranges.reverse)

end ClassDraft

/-- Alternatives that are being read: those that are complete, the latest first, and the parts before
the opening brace, the latest first. -/
structure ChoiceDraft where
  done : List (List GlobPart) := []
  before : List GlobPart

/-- A glob that is being read. -/
structure Draft where
  /-- The parts of the current alternative, the latest first. -/
  parts : List GlobPart := []
  /-- The alternatives around the current one, the innermost first. -/
  choices : List ChoiceDraft := []
  /-- The latest character. -/
  prev : Option Char := none

namespace Draft

/-- The draft with one more part. -/
def push (d : Draft) (part : GlobPart) : Draft := { d with parts := part :: d.parts }

/-- The draft after an opening brace. -/
def openChoice (d : Draft) : Draft :=
  { d with parts := [], choices := { before := d.parts } :: d.choices }

/-- The draft after a comma, which divides alternatives inside of braces only. -/
def comma (d : Draft) : Draft :=
  match d.choices with
  | [] => d.push (.literal ',')
  | c :: choices =>
    { d with parts := [], choices := { c with done := d.parts.reverse :: c.done } :: choices }

/-- The draft after a closing brace. -/
def closeChoice (d : Draft) : Except GlobFault Draft :=
  match d.choices with
  | [] => .error .unopenedChoice
  | c :: choices =>
    let branches := (d.parts.reverse :: c.done).reverse
    .ok { d with parts := .choice branches :: c.before, choices := choices }

/-- Whether two stars at this place come after a slash, or begin an alternative. -/
def afterSlash (d : Draft) : Bool :=
  d.prev == some '/' || (!d.choices.isEmpty && (d.prev == some ',' || d.prev == some '\x7b'))

/-- Whether the text that follows two stars ends the alternative. -/
def endsBranch (d : Draft) (rest : List Char) : Bool :=
  match rest with
  | [] => true
  | c :: _ => !d.choices.isEmpty && (c == ',' || c == '\x7d')

/-- The draft with directories in place of the slash before two stars. -/
def pushDirs (d : Draft) (dirs : GlobPart) : Draft :=
  match d.parts with
  | .leadingDirs :: _ => d
  | .trailingDirs :: _ => d
  | parts => { d with parts := dirs :: parts.drop 1 }

/-- The draft after two stars and, where the stars stand for directories, the slash after them;
together with the text that is left. -/
def stars (d : Draft) (rest : List Char) : Draft × List Char :=
  let plain := ({ (d.push .anything).push .anything with prev := some '*' }, rest)
  if d.parts.isEmpty then
    match rest with
    | [] => (d.push .leadingDirs, [])
    | '/' :: rest => ({ d.push .leadingDirs with prev := some '/' }, rest)
    | _ => plain
  else if !d.afterSlash then plain
  else if d.endsBranch rest then ({ d.pushDirs .trailingDirs with prev := some '*' }, rest)
  else
    match rest with
    | '/' :: rest => ({ d.pushDirs .innerDirs with prev := some '/' }, rest)
    | _ => plain

/-- The text that is left after two stars is not longer than before. -/
theorem length_stars_le (d : Draft) (rest : List Char) : (d.stars rest).2.length ≤ rest.length := by
  unfold stars
  repeat' split
  all_goals simp

end Draft

/-- Reads the rest of a glob, where a class may be open. -/
def partsFrom (draft : Draft) (cls : Option ClassDraft) (cs : List Char) :
    Except GlobFault (List GlobPart) :=
  match cls, cs with
  | some _, [] => .error .unclosedClass
  | some d, c :: cs =>
    match d.read c with
    | .error e => .error e
    | .ok (some d) => partsFrom draft (some d) cs
    | .ok none => partsFrom { draft.push d.part with prev := some ']' } none cs
  | none, [] => if draft.choices.isEmpty then .ok draft.parts.reverse else .error .unclosedChoice
  | none, '?' :: cs => partsFrom { draft.push .any with prev := some '?' } none cs
  | none, '*' :: '*' :: cs => partsFrom (draft.stars cs).1 none (draft.stars cs).2
  | none, '*' :: cs => partsFrom { draft.push .anything with prev := some '*' } none cs
  | none, '[' :: '!' :: cs => partsFrom draft (some { negated := true }) cs
  | none, '[' :: '^' :: cs => partsFrom draft (some { negated := true }) cs
  | none, '[' :: cs => partsFrom draft (some { negated := false }) cs
  | none, '\x7b' :: cs => partsFrom { draft.openChoice with prev := some '\x7b' } none cs
  | none, '\x7d' :: cs =>
    match draft.closeChoice with
    | .error e => .error e
    | .ok draft => partsFrom { draft with prev := some '\x7d' } none cs
  | none, ',' :: cs => partsFrom { draft.comma with prev := some ',' } none cs
  | none, ['\\'] => .error .danglingEscape
  | none, '\\' :: c :: cs => partsFrom { draft.push (.literal c) with prev := some c } none cs
  | none, c :: cs => partsFrom { draft.push (.literal c) with prev := some c } none cs
termination_by cs.length
decreasing_by
  all_goals simp only [List.length_cons]
  any_goals omega
  have := draft.length_stars_le cs
  omega

/-- Reads a glob. -/
def parse (text : String) : Except GlobError Glob :=
  match partsFrom {} none text.toList with
  | .ok parts => .ok ⟨parts⟩
  | .error fault => .error ⟨text, fault⟩

end SourceReview.Glob
