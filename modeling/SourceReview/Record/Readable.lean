import SourceReview.Decimal.Reading
import SourceReview.Json.Basic

/-!
# Reading records

Records are read from values of a data format. A format says which of its values can be taken as a
text, a number, a list and so on; how a record is put together is the same for all formats. A record
is an object with its fields as members, or a list of its fields in order.
-/

namespace SourceReview

/-- A data format whose values can be read as parts of records. -/
class Readable (ν : Type) where
  asText? : ν → Option String
  asFlag? : ν → Option Bool
  asInt? : ν → Option Int
  asFloat? : ν → Option Float
  asList? : ν → Option (List ν)
  asMembers? : ν → Option (List (String × ν))
  /-- Whether the value stands for nothing where a value is optional. -/
  isNothing : ν → Bool

export Readable (asText? asFlag? asInt? asFloat? asList? asMembers? isNothing)

instance : Readable Json where
  asText? | .str s => some s | _ => none
  asFlag? | .bool b => some b | _ => none
  asInt? | .int n => some n | _ => none
  asFloat? | .int n => some (Decimal.ofInt n) | .float x => some x | _ => none
  asList? | .arr items => some items | _ => none
  asMembers? | .obj members => some members | _ => none
  isNothing | .null => true | _ => false

namespace Record

variable {ν : Type} [Readable ν]

/-- The fields of a record with the given names. Members with other names are ignored; a field may
not occur twice. In a list, fields at the end may be left out. -/
def fields? (names : List String) (v : ν) : Option (List (String × ν)) :=
  match asMembers? v with
  | some members =>
    let known := members.filter fun m => names.contains m.1
    if (known.map Prod.fst).Nodup then some known else none
  | none =>
    match asList? v with
    | some items => if items.length ≤ names.length then some (names.zip items) else none
    | none => none

/-- The value of a field that has to be there. -/
def required (fields : List (String × ν)) (name : String) (read : ν → Option α) : Option α :=
  (fields.lookup name).bind read

/-- The value of a field that may be left out. -/
def withDefault (fields : List (String × ν)) (name : String) (default : α) (read : ν → Option α) :
    Option α :=
  match fields.lookup name with
  | some v => read v
  | none => some default

/-- A value that may be nothing. -/
def optional (read : ν → Option α) (v : ν) : Option (Option α) :=
  if isNothing v then some none else (read v).map some

/-- The value of a field that may be left out or nothing. -/
def optionalField (fields : List (String × ν)) (name : String) (read : ν → Option α) :
    Option (Option α) :=
  withDefault fields name none (optional read)

/-- The values of a list. -/
def list (read : ν → Option α) (v : ν) : Option (List α) := (asList? v).bind fun vs => vs.mapM read

/-- The texts of a list. -/
def texts (v : ν) : Option (List String) := list asText? v

/-- A natural number below `2 ^ bits`. -/
def natBelow (bits : Nat) (v : ν) : Option Nat :=
  (asInt? v).bind fun n => if 0 ≤ n && n < Decimal.twoTo bits then some n.toNat else none

/-- A natural number of 64 bits. -/
def count (v : ν) : Option Nat := natBelow 64 v

/-- A natural number of 32 bits. -/
def word (v : ν) : Option UInt32 := (natBelow 32 v).map UInt32.ofNat

/-- One of several choices by its name. The name may also be the only member of an object that has
nothing as its value. -/
def choice (choices : List α) (name : α → String) (v : ν) : Option α :=
  match asText? v with
  | some s => choices.find? (name · == s)
  | none =>
    match asMembers? v with
    | some [(s, inner)] => if isNothing inner then choices.find? (name · == s) else none
    | _ => none

end Record

end SourceReview
