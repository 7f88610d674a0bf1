import SourceReview.Text.Printable

/-!
# Quoted texts

Messages show names and paths between double quotes. Quotes, backslashes and the four common
controls are written as escapes, every other character that is not printable by its code point.
-/

namespace SourceReview.Text

/-- `\u`, and the code point of `c` in braces. -/
def codePointEscape (c : Char) : List Char :=
  "\\u\x7b".toList ++ Nat.toDigits 16 c.toNat ++ ['\x7d']

/-- How `c` is written between double quotes. -/
def escapeChar (c : Char) : List Char :=
  if c == '\x00' then ['\\', '0']
  else if c == '\t' then ['\\', 't']
  else if c == '\r' then ['\\', 'r']
  else if c == '\n' then ['\\', 'n']
  else if c == '"' || c == '\\' then ['\\', c]
  else if isPrintable c then [c]
  else codePointEscape c

/-- `s` between double quotes. -/
def quoted (s : String) : String :=
  String.ofList ('"' :: s.toList.flatMap escapeChar ++ ['"'])

/-- A path between double quotes, where an apostrophe is escaped as well. -/
def quotedPath (s : String) : String :=
  String.ofList
    ('"' :: s.toList.flatMap (fun c => if c == '\x27' then ['\\', c] else escapeChar c) ++ ['"'])

/-- The texts quoted, separated by commas, in square brackets. -/
def quotedList (ss : List String) : String := "[" ++ ", ".intercalate (ss.map quoted) ++ "]"

end SourceReview.Text
