/-!
# Globs

A glob is a pattern for paths. It is made of parts, of which some match a fixed text and others any
text, or any number of directories.
-/

namespace SourceReview

/-- A part of a glob. -/
inductive GlobPart where
  /-- One character. -/
  | literal (c : Char)
  /-- Any one byte. -/
  | any
  /-- Any text. -/
  | anything
  /-- Any number of directories at the beginning of a path. -/
  | leadingDirs
  /-- Everything below a directory. -/
  | trailingDirs
  /-- A slash, or any number of directories between two slashes. -/
  | innerDirs
  /-- One byte that is in a class, or not in it. -/
  | oneOf (negated : Bool) (ranges : List (Char × Char))
  /-- One of several globs. -/
  | choice (branches : List (List GlobPart))
  deriving Repr

/-- What is wrong with the text of a glob. -/
inductive GlobFault where
  | unclosedClass
  /-- A range of characters ends before it begins. -/
  | invalidRange (first last : Char)
  | unopenedChoice
  | unclosedChoice
  /-- A backslash has nothing to escape. -/
  | danglingEscape
  deriving DecidableEq, Repr

/-- A fault in the text of a glob, as a text. -/
def GlobFault.text : GlobFault → String
  | .unclosedClass => "unclosed character class; missing ']'"
  | .invalidRange first last =>
    "invalid range; '" ++ first.toString ++ "' > '" ++ last.toString ++ "'"
  | .unopenedChoice =>
    "unopened alternate group; missing '\x7b' (maybe escape '\x7d' with '[\x7d]'?)"
  | .unclosedChoice =>
    "unclosed alternate group; missing '\x7d' (maybe escape '\x7b' with '[\x7b]'?)"
  | .danglingEscape => "dangling '\\'"

/-- A text that is no glob. -/
structure GlobError where
  glob : String
  fault : GlobFault
  deriving DecidableEq, Repr

/-- The text of a complaint about a glob. -/
def GlobError.message (e : GlobError) : String :=
  "error parsing glob '" ++ e.glob ++ "': " ++ e.fault.text

/-- A pattern for paths. -/
structure Glob where
  parts : List GlobPart
  deriving Repr

end SourceReview
