import SourceReview.Record.Readable
import SourceReview.Yaml.Node

/-!
# Reading records from YAML

What a plain scalar stands for depends on its text: nothing, a truth value, a number or the text
itself. A scalar in quotes is always a text.
-/

namespace SourceReview.Yaml

/-! ### Numbers -/

/-- The value of a digit. -/
def digitValue? (radix : Nat) (c : Char) : Option Nat :=
  (Json.hexValue? c).filter (· < radix)

/-- The natural number that the digits of a text stand for. -/
def natOf? (radix : Nat) (cs : List Char) : Option Nat :=
  if cs.isEmpty then none
  else cs.foldlM (fun n c => (digitValue? radix c).map (radix * n + ·)) 0

/-- The natural number that a text without a sign stands for. A digit after a leading zero makes it
a text. -/
def unsignedOf? : List Char → Option Nat
  | '0' :: 'x' :: ds => natOf? 16 ds
  | '0' :: 'o' :: ds => natOf? 8 ds
  | '0' :: 'b' :: ds => natOf? 2 ds
  | ['0'] => some 0
  | '0' :: _ => none
  | ds => natOf? 10 ds

/-- The integer that a text stands for. -/
def intOf? : List Char → Option Int
  | '-' :: cs => (unsignedOf? cs).map fun n => -n
  | '+' :: cs => (unsignedOf? cs).map fun n => n
  | cs => (unsignedOf? cs).map fun n => n

/-- Whether a text has only digits after a leading zero, which makes it no number. -/
def hasLeadingZero (cs : List Char) : Bool :=
  let ds := if cs.head?.any (isOneOf "+-") then cs.tail else cs
  ds.head? == some '0' && 1 < ds.length && ds.all Char.isDigit

/-- The double that a text stands for, if it is not an integer. -/
def fractionOf? (cs : List Char) : Option Float :=
  let unsigned := if cs.head? == some '+' then cs.tail else cs
  if hasLeadingZero cs || (cs.head? == some '+' && unsigned.head?.any (isOneOf "+-")) then none
  else if [".inf", ".Inf", ".INF"].contains (String.ofList unsigned) then some (1 / 0)
  else if ["-.inf", "-.Inf", "-.INF"].contains (String.ofList cs) then some (-1 / 0)
  else if [".nan", ".NaN", ".NAN"].contains (String.ofList cs) then some (0 / 0)
  else (Decimal.parse? unsigned).filter Float.isFinite

/-- Whether an integer fits into a word of 64 bits, with a sign or without. -/
def fitsWord (n : Int) : Bool := -(Decimal.twoTo 63 : Int) ≤ n && n < Decimal.twoTo 64

/-- Whether an integer fits into a word of 128 bits, with a sign or without. -/
def fitsWideWord (n : Int) : Bool := -(Decimal.twoTo 127 : Int) ≤ n && n < Decimal.twoTo 128

/-- The double that a text stands for. An integer that needs more than 64 bits has none, and one
that needs more than 128 is read like a fraction. -/
def numberOf? (cs : List Char) : Option Float :=
  match (intOf? cs).filter fitsWideWord with
  | some n => if fitsWord n then some (Decimal.ofInt n) else none
  | none => fractionOf? cs

/-! ### Values -/

/-- Whether a plain text stands for nothing. -/
def isNull (cs : List Char) : Bool := ["null", "Null", "NULL", "~"].contains (String.ofList cs)

/-- The truth value that a plain text stands for. -/
def flagOf? (cs : List Char) : Option Bool :=
  let word := String.ofList cs
  if ["true", "True", "TRUE"].contains word then some true
  else if ["false", "False", "FALSE"].contains word then some false
  else none

namespace Node

/-- The text of a scalar. -/
def text? : Node → Option String
  | .scalar _ cs => some (String.ofList cs)
  | _ => none

instance : Readable Node where
  asText? := text?
  asFlag? | .scalar true cs => flagOf? cs | _ => none
  asInt? | .scalar true cs => (intOf? cs).filter fitsWord | _ => none
  asFloat? | .scalar true cs => numberOf? cs | _ => none
  asList? | .sequence items => some items | .scalar true [] => some [] | _ => none
  asMembers?
    | .mapping entries => entries.mapM fun e => e.1.text?.map fun key => (key, e.2)
    | .scalar true [] => some []
    | _ => none
  isNothing | .scalar true cs => cs.isEmpty || isNull cs | _ => false

end Node

end SourceReview.Yaml
