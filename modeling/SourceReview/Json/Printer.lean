import SourceReview.Decimal.Layout
import SourceReview.Json.Basic

/-!
# Printed JSON

A value is printed on one line without blanks, or over several lines with two spaces for each level.
Numbers with a fraction have the fewest digits that read back as the same double.
-/

namespace SourceReview.Json

/-- Numbers keep `.0` when they are whole, and have an exponent below `1e-5` and from `1e16` on. -/
def numberStyle : Decimal.Style := ⟨.toEven, some (-5, 15), ".0".toList, ['+']⟩

/-- A digit of base sixteen. -/
def hexDigit (n : Nat) : Char := (Nat.toDigits 16 n).headD '0'

/-- How a character is written between quotes. -/
def escape (c : Char) : List Char :=
  if c == '"' || c == '\\' then ['\\', c]
  else if c == '\n' then ['\\', 'n']
  else if c == '\r' then ['\\', 'r']
  else if c == '\t' then ['\\', 't']
  else if c == '\x08' then ['\\', 'b']
  else if c == '\x0c' then ['\\', 'f']
  else if c.toNat < 32 then ['\\', 'u', '0', '0', hexDigit (c.toNat / 16), hexDigit (c.toNat % 16)]
  else [c]

/-- A text between quotes. -/
def quote (s : String) : String := String.ofList ('"' :: s.toList.flatMap escape ++ ['"'])

mutual

/-- A value on one line. -/
def compact : Json → String
  | .null => "null"
  | .bool b => if b then "true" else "false"
  | .int n => toString n
  | .float x => if x.isFinite then numberStyle.text x else "null"
  | .str s => quote s
  | .arr items => "[" ++ ",".intercalate (compactItems items) ++ "]"
  | .obj members => "\x7b" ++ ",".intercalate (compactMembers members) ++ "\x7d"

/-- The items of an array, each on one line. -/
def compactItems : List Json → List String
  | [] => []
  | v :: vs => v.compact :: compactItems vs

/-- The members of an object, each on one line. -/
def compactMembers : List (String × Json) → List String
  | [] => []
  | (k, v) :: ms => (quote k ++ ":" ++ v.compact) :: compactMembers ms

end

/-- A line break and the indentation of a level. -/
def lineBreak (level : Nat) : String := String.ofList ('\n' :: List.replicate (2 * level) ' ')

/-- Pieces between brackets, each on a line of its own one level deeper. -/
def block (opening closing : String) (level : Nat) (pieces : List String) : String :=
  if pieces.isEmpty then opening ++ closing
  else
    opening ++ lineBreak (level + 1) ++ ("," ++ lineBreak (level + 1)).intercalate pieces ++
      lineBreak level ++ closing

mutual

/-- A value over several lines, of which the first is indented already. -/
def prettyAt (level : Nat) : Json → String
  | .arr items => block "[" "]" level (prettyItems (level + 1) items)
  | .obj members => block "\x7b" "\x7d" level (prettyMembers (level + 1) members)
  | .null => compact .null
  | .bool b => compact (.bool b)
  | .int n => compact (.int n)
  | .float x => compact (.float x)
  | .str s => compact (.str s)

/-- The items of an array. -/
def prettyItems (level : Nat) : List Json → List String
  | [] => []
  | v :: vs => v.prettyAt level :: prettyItems level vs

/-- The members of an object. -/
def prettyMembers (level : Nat) : List (String × Json) → List String
  | [] => []
  | (k, v) :: ms => (quote k ++ ": " ++ v.prettyAt level) :: prettyMembers level ms

end

/-- A value over several lines. -/
def pretty (v : Json) : String := v.prettyAt 0

end SourceReview.Json
