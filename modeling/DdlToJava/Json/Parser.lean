import DdlToJava.Json.Token

/-!
# Reading JSON

The tokens of a text are read onto a stack; a closing mark takes everything back to its opening
mark off the stack, checks it and puts the value there instead.  The text is well formed if one
value is left.  Containers that hold something may stand 200 deep in each other.
-/

namespace DdlToJava.Json

namespace Parser

/-- how deep containers that hold something may stand in each other -/
def depthLimit : Nat := 200

def isOpenArray : Token → Bool
  | .openArray => true
  | _ => false

def isOpenObject : Token → Bool
  | .openObject => true
  | _ => false

/-- what lies on the stack above the uppermost opening mark, in the order of the text, and what lies
below the mark -/
def takeBack (isOpen : Token → Bool) (inside : List Token) :
    List Token → Option (List Token × List Token)
  | [] => none
  | t :: ts => if isOpen t then some (inside, ts) else takeBack isOpen (t :: inside) ts

/-- the items of an array, from the tokens between its marks -/
def items? : List Token → Option (List Json)
  | [] => some []
  | [.value v] => some [v]
  | .value v :: .comma :: t :: ts => (items? (t :: ts)).map (v :: ·)
  | _ => none

/-- the fields of an object, from the tokens between its marks -/
def fields? : List Token → Option (List (String × Json))
  | [] => some []
  | [.value (.string k), .colon, .value v] => some [(k, v)]
  | .value (.string k) :: .colon :: .value v :: .comma :: t :: ts =>
    (fields? (t :: ts)).map ((k, v) :: ·)
  | _ => none

/-- may a container stand on this stack, given what is in it? -/
def isShallow (inside below : List Token) : Bool :=
  inside.isEmpty || below.countP (fun t => isOpenArray t || isOpenObject t) < depthLimit

/-- take one token onto the stack -/
def shift (stack : List Token) : Token → Option (List Token)
  | .closeArray => do
    let (inside, below) ← takeBack isOpenArray [] stack
    let items ← items? inside
    if isShallow inside below then some (.value (.array items) :: below) else none
  | .closeObject => do
    let (inside, below) ← takeBack isOpenObject [] stack
    let fields ← fields? inside
    if isShallow inside below then some (.value (.object fields) :: below) else none
  | t => some (t :: stack)

/-- take the tokens onto the stack, one after the other -/
def shiftAll (stack : List Token) : List Token → Option (List Token)
  | [] => some stack
  | t :: ts => (shift stack t).bind fun stack => shiftAll stack ts

theorem shiftAll_nil (stack : List Token) : shiftAll stack [] = some stack := rfl

theorem shiftAll_append (stack : List Token) (a b : List Token) :
    shiftAll stack (a ++ b) = (shiftAll stack a).bind fun stack => shiftAll stack b := by
  induction a generalizing stack with
  | nil => rfl
  | cons t ts ih =>
    cases h : shift stack t <;> simp [shiftAll, h, ih]

/-- the value that a list of tokens writes -/
def ofTokens? (ts : List Token) : Option Json :=
  match shiftAll [] ts with
  | some [.value v] => some v
  | _ => none

end Parser

/-- the value that a text writes; nothing if the text is not JSON -/
def parse? (text : String) : Option Json := (Token.tokens? text.toList).bind Parser.ofTokens?

end DdlToJava.Json
