/-!
# JSON values
-/

namespace SourceReview

/-- A JSON value. Integers are kept apart from other numbers, and objects keep their members in
order and with repetitions. -/
inductive Json where
  | null
  | bool (value : Bool)
  | int (value : Int)
  | float (value : Float)
  | str (value : String)
  | arr (items : List Json)
  | obj (members : List (String × Json))
  deriving Repr, Inhabited

namespace Json

/-- A number, or null if it is not finite. -/
def ofFloat (x : Float) : Json := if x.isFinite then .float x else .null

/-- A natural number. -/
def ofNat (n : Nat) : Json := .int n

/-- A list of texts. -/
def ofTexts (ss : List String) : Json := .arr (ss.map .str)

/-- The value of a member of an object; of several with the same name, the last one counts. -/
def member? (name : String) : Json → Option Json
  | .obj members => members.reverse.lookup name
  | _ => none

/-- A member of an object that is left out if it has no value. -/
def optional (name : String) (value : Option Json) : List (String × Json) :=
  (value.map fun v => (name, v)).toList

end Json

end SourceReview
