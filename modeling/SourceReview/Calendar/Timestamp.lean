import SourceReview.Calendar.Date
import SourceReview.Decimal.Reading
import SourceReview.Text.Blank

/-!
# Timestamps

A timestamp is a moment, written as a date and a time of day with an offset. It is written back
without offset, with as many digits of the second as it needs, in groups of three.
-/

namespace SourceReview

/-- A moment: the seconds since the beginning of 1970, and the nanoseconds of the second, which
exceed a second in a leap second. -/
structure Timestamp where
  seconds : Int
  nanos : Nat := 0
  deriving DecidableEq, Repr

namespace Timestamp

/-- A number of at most `width` digits after blanks, and what follows it. -/
def numberAt? (width : Nat) (cs : List Char) : Option (Nat × List Char) :=
  let cs := Text.trimStart cs
  let ds := (cs.takeWhile Char.isDigit).take width
  if ds.isEmpty then none else some (Decimal.natOfDigits ds, cs.drop ds.length)

/-- A year of four digits after blanks, or of any number of digits if it has a sign, and what
follows it. -/
def yearAt? (cs : List Char) : Option (Int × List Char) :=
  match Text.trimStart cs with
  | '-' :: cs => signed cs |>.map fun (n, cs) => (-(n : Int), cs)
  | '+' :: cs => signed cs |>.map fun (n, cs) => ((n : Int), cs)
  | cs => (numberAt? 4 cs).map fun (n, cs) => ((n : Int), cs)
where
  /-- All digits at the beginning of a text. -/
  signed (cs : List Char) : Option (Nat × List Char) :=
    if (cs.takeWhile Char.isDigit).isEmpty then none else numberAt? cs.length cs

/-- What follows a mark after blanks. -/
def markAt? (mark : Char) (cs : List Char) : Option (List Char) :=
  match Text.trimStart cs with
  | c :: cs => if c == mark then some cs else none
  | [] => none

/-- The nanoseconds of a fraction of a second, and what follows it. -/
def fractionAt? (cs : List Char) : Option (Nat × List Char) :=
  match cs with
  | '.' :: cs =>
    let all := cs.takeWhile Char.isDigit
    let ds := all.take 9
    if ds.isEmpty then none
    else some (Decimal.natOfDigits ds * Decimal.tenTo (9 - ds.length), cs.drop all.length)
  | cs => some (0, cs)

/-- The hours and minutes of an offset in seconds, and what follows it. Colons and blanks may
separate them. -/
def clockOffset? (cs : List Char) : Option (Int × List Char) :=
  match cs with
  | a :: b :: cs =>
    match cs.dropWhile fun c => c == ':' || Text.isBlank c with
    | c :: d :: cs =>
      if a.isDigit && b.isDigit && c.isDigit && d.isDigit && c < '6' then
        some (Decimal.natOfDigits [a, b] * 3600 + Decimal.natOfDigits [c, d] * 60, cs)
      else none
    | _ => none
  | _ => none

/-- The offset at the beginning of a text in seconds, and what follows it. -/
def offsetAt? (cs : List Char) : Option (Int × List Char) :=
  let cs := Text.trimStart cs
  if String.ofList ((cs.take 3).map Char.toUpper) = "UTC" then some (0, cs.drop 3)
  else
    match cs with
    | 'Z' :: cs => some (0, cs)
    | 'z' :: cs => some (0, cs)
    | '+' :: cs => clockOffset? cs
    | '-' :: cs => (clockOffset? cs).map fun (n, cs) => (-n, cs)
    | '−' :: cs => (clockOffset? cs).map fun (n, cs) => (-n, cs)
    | _ => none

/-- The greatest distance of a year from the year zero. -/
def yearLimit : Int := 262142

/-- The timestamp that a text stands for. -/
def parse? (text : String) : Option Timestamp := do
  let (year, cs) ← yearAt? text.toList
  let cs ← markAt? '-' cs
  let (month, cs) ← numberAt? 2 cs
  let cs ← markAt? '-' cs
  let (day, cs) ← numberAt? 2 cs
  let cs ←
    match cs with
    | c :: cs => if c == 'T' || c == 't' || c == ' ' then some cs else none
    | [] => none
  let (hour, cs) ← numberAt? 2 cs
  let cs ← markAt? ':' cs
  let (minute, cs) ← numberAt? 2 cs
  let cs ← markAt? ':' cs
  let (second, cs) ← numberAt? 2 cs
  let (fraction, cs) ← fractionAt? cs
  let (offset, cs) ← offsetAt? cs
  let date : Calendar.Date := ⟨year, month, day⟩
  if date.isValid && year.natAbs ≤ yearLimit && hour < 24 && minute < 60 && second ≤ 60 &&
      offset.natAbs < 86400 && (Text.trimStart cs).isEmpty then
    -- A leap second is the end of the second before it.
    let (second, fraction) :=
      if second = 60 then (59, fraction + 1000000000) else (second, fraction)
    let time : Int := (hour * 3600 + minute * 60 + second : Nat)
    some ⟨date.toDays * 86400 + time - offset, fraction⟩
  else none

/-- A number filled up with zeros to a number of digits. -/
def digits (width n : Nat) : String :=
  let ds := Nat.toDigits 10 n
  String.ofList (List.replicate (width - ds.length) '0' ++ ds)

/-- A year of at least four digits, with a sign if it has more or lies before the year zero. -/
def yearText (year : Int) : String :=
  if year < 0 then "-" ++ digits 4 year.natAbs
  else if 9999 < year then "+" ++ digits 4 year.natAbs
  else digits 4 year.natAbs

/-- The digits of a fraction of a second, in groups of three. -/
def fractionText (nanos : Nat) : String :=
  if nanos = 0 then ""
  else if nanos % 1000000 = 0 then "." ++ digits 3 (nanos / 1000000)
  else if nanos % 1000 = 0 then "." ++ digits 6 (nanos / 1000)
  else "." ++ digits 9 nanos

/-- A timestamp as a text. -/
def text (t : Timestamp) : String :=
  let date := Calendar.Date.ofDays (t.seconds / 86400)
  let time := (t.seconds % 86400).toNat
  let (extra, nanos) := if t.nanos < 1000000000 then (0, t.nanos) else (1, t.nanos - 1000000000)
  yearText date.year ++ "-" ++ digits 2 date.month ++ "-" ++ digits 2 date.day ++ "T" ++
    digits 2 (time / 3600) ++ ":" ++ digits 2 (time / 60 % 60) ++ ":" ++
    digits 2 (time % 60 + extra) ++ fractionText nanos ++ "Z"

end Timestamp

end SourceReview
