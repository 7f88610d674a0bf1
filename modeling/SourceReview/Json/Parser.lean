import SourceReview.Decimal.Reading
import SourceReview.Json.Basic

/-!
# Reading JSON

A text is read as one JSON value with nothing but blanks around it. Values may be nested up to a
fixed depth. Integers that do not fit into 64 bits are read as other numbers.
-/

namespace SourceReview.Json

/-- Whether a character may stand between values. -/
def isGap (c : Char) : Bool := c == ' ' || c == '\n' || c == '\r' || c == '\t'

/-- The text without blanks at its beginning. -/
def skipGaps (cs : List Char) : List Char := cs.dropWhile isGap

/-- The value of a digit of base sixteen. -/
def hexValue? (c : Char) : Option Nat :=
  if c.isDigit then some (c.toNat - '0'.toNat)
  else if 'a' ≤ c && c ≤ 'f' then some (c.toNat - 'a'.toNat + 10)
  else if 'A' ≤ c && c ≤ 'F' then some (c.toNat - 'A'.toNat + 10)
  else none

/-- The number that four digits of base sixteen stand for, and what follows them. -/
def hexUnit? : List Char → Option (Nat × List Char)
  | a :: b :: c :: d :: cs => do
    let a ← hexValue? a
    let b ← hexValue? b
    let c ← hexValue? c
    let d ← hexValue? d
    return (((a * 16 + b) * 16 + c) * 16 + d, cs)
  | _ => none

/-- The character that an escape with digits stands for, given what follows the letter, and what
follows the escape. A character beyond the first plane is a pair of units, of which neither may
stand alone. -/
def unicodeEscape? (cs : List Char) : Option (Char × List Char) := do
  let (unit, rest) ← hexUnit? cs
  if 0xD800 ≤ unit && unit < 0xDC00 then
    match rest with
    | '\\' :: 'u' :: rest =>
      let (low, rest) ← hexUnit? rest
      if 0xDC00 ≤ low && low < 0xE000 then
        return (Char.ofNat (0x10000 + (unit - 0xD800) * 0x400 + (low - 0xDC00)), rest)
      else none
    | _ => none
  else if 0xDC00 ≤ unit && unit < 0xE000 then none
  else return (Char.ofNat unit, rest)

/-- The character that an escape of one letter stands for. -/
def letterEscape? (c : Char) : Option Char :=
  match c with
  | '"' => some '"'
  | '\\' => some '\\'
  | '/' => some '/'
  | 'b' => some '\x08'
  | 'f' => some '\x0c'
  | 'n' => some '\n'
  | 'r' => some '\r'
  | 't' => some '\t'
  | _ => none

/-- The text up to the closing quote, and what follows it. `fuel` bounds the number of characters,
and `done` holds the text read so far in reverse order. -/
def textAt : Nat → List Char → List Char → Option (String × List Char)
  | 0, _, _ => none
  | _ + 1, _, [] => none
  | fuel + 1, done, c :: cs =>
    if c == '"' then some (String.ofList done.reverse, cs)
    else if c == '\\' then
      match cs with
      | 'u' :: cs =>
        match unicodeEscape? cs with
        | some (d, cs) => textAt fuel (d :: done) cs
        | none => none
      | e :: cs =>
        match letterEscape? e with
        | some d => textAt fuel (d :: done) cs
        | none => none
      | [] => none
    else if c.toNat < 32 then none
    else textAt fuel (c :: done) cs

/-- A number without fraction and exponent: an integer if it fits into 64 bits, and otherwise the
nearest double. Zero with a sign is no integer. -/
def wholeNumber (negative : Bool) (n : Nat) : Json :=
  if negative then
    if 0 < n && n ≤ Decimal.twoTo 63 then .int (-n) else .float (Decimal.ofScientific true n 0)
  else if n < Decimal.twoTo 64 then .int n
  else .float (Decimal.ofScientific false n 0)

/-- The number at the beginning of a text, after its sign, and what follows it. -/
def numberAt (negative : Bool) (cs : List Char) : Option (Json × List Char) :=
  let (n, rest) := Decimal.numeralAt cs
  if n.whole.isEmpty || (n.whole.head? == some '0' && 1 < n.whole.length) then none
  else if n.fraction == some [] || !n.exponentHasDigits then none
  else
    let value :=
      if n.fraction.isNone && n.exponent.isNone then
        wholeNumber negative (Decimal.natOfDigits n.whole)
      else .float (n.value negative)
    match value with
    | .float x => if x.isFinite then some (value, rest) else none
    | _ => some (value, rest)

/-- The depth at which values may not be nested any more. -/
def depthLimit : Nat := 128

mutual

/-- The value at the beginning of a text, and what follows it. `fuel` bounds the number of steps,
and `depth` the number of levels. -/
def valueAt : Nat → Nat → List Char → Option (Json × List Char)
  | 0, _, _ => none
  | fuel + 1, depth, cs =>
    match skipGaps cs with
    | 'n' :: 'u' :: 'l' :: 'l' :: cs => some (.null, cs)
    | 't' :: 'r' :: 'u' :: 'e' :: cs => some (.bool true, cs)
    | 'f' :: 'a' :: 'l' :: 's' :: 'e' :: cs => some (.bool false, cs)
    | '"' :: cs => (textAt (cs.length + 1) [] cs).map fun (s, cs) => (.str s, cs)
    | '[' :: cs =>
      if depth ≤ 1 then none
      else
        match skipGaps cs with
        | ']' :: cs => some (.arr [], cs)
        | cs => (itemsAt fuel (depth - 1) cs).map fun (items, cs) => (.arr items, cs)
    | '\x7b' :: cs =>
      if depth ≤ 1 then none
      else
        match skipGaps cs with
        | '\x7d' :: cs => some (.obj [], cs)
        | cs => (membersAt fuel (depth - 1) cs).map fun (members, cs) => (.obj members, cs)
    | '-' :: cs => numberAt true cs
    | cs => numberAt false cs

/-- The items of an array up to the closing bracket, at least one, and what follows it. -/
def itemsAt : Nat → Nat → List Char → Option (List Json × List Char)
  | 0, _, _ => none
  | fuel + 1, depth, cs =>
    match valueAt fuel depth cs with
    | none => none
    | some (v, cs) =>
      match skipGaps cs with
      | ']' :: cs => some ([v], cs)
      | ',' :: cs => (itemsAt fuel depth cs).map fun (vs, cs) => (v :: vs, cs)
      | _ => none

/-- The members of an object up to the closing brace, at least one, and what follows it. -/
def membersAt : Nat → Nat → List Char → Option (List (String × Json) × List Char)
  | 0, _, _ => none
  | fuel + 1, depth, cs =>
    match skipGaps cs with
    | '"' :: cs =>
      match textAt (cs.length + 1) [] cs with
      | none => none
      | some (k, cs) =>
        match skipGaps cs with
        | ':' :: cs =>
          match valueAt fuel depth cs with
          | none => none
          | some (v, cs) =>
            match skipGaps cs with
            | '\x7d' :: cs => some ([(k, v)], cs)
            | ',' :: cs => (membersAt fuel depth cs).map fun (ms, cs) => ((k, v) :: ms, cs)
            | _ => none
        | _ => none
    | _ => none

end

/-- The value that a text stands for. No two steps in a row pass no character, so that twice the
length of the text bounds their number. -/
def parse? (text : String) : Option Json :=
  let cs := text.toList
  match valueAt (2 * cs.length + 2) depthLimit cs with
  | some (v, rest) => if (skipGaps rest).isEmpty then some v else none
  | none => none

end SourceReview.Json
