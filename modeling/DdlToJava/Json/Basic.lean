import DdlToJava.Decimal

/-!
# JSON values

A number keeps the distinction between a written integer and a written fraction, and the three
names of numbers without a value are values of their own.  An object is the list of its fields as
they were written; of several fields with one key the last counts.
-/

namespace DdlToJava

/-- a JSON value -/
inductive Json where
  | null
  | bool (b : Bool)
  | int (n : Int)
  | decimal (d : Decimal)
  | nan
  | infinity (negative : Bool)
  | string (s : String)
  | array (items : List Json)
  | object (fields : List (String × Json))
  deriving Repr, Inhabited

namespace Json

/-- the value that counts for a key -/
def find? (fields : List (String × Json)) (key : String) : Option Json :=
  fields.reverse.lookup key

theorem find?_nil (key : String) : find? [] key = none := rfl

theorem find?_concat_self (fields : List (String × Json)) (key : String) (v : Json) :
    find? (fields ++ [(key, v)]) key = some v := by
  simp [find?]

end Json

end DdlToJava
