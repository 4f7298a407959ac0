import DdlToJava.Console.Cells
import DdlToJava.Console.Emoji
import DdlToJava.Console.Literal
import DdlToJava.Console.Style

/-!
# Console markup

A status message may hold tags in square brackets, which the console does not print.  A tag starts
with a small letter, `#`, `/` or `@`; backslashes in front of one print by half, and an odd one
makes the tag a text.  A tag opens a style, an action if it starts with `@`, or closes what its
name stands for behind a slash.  The text between tags may call emoji, and its tabs become blanks.
`escape` writes a text so that nothing in it is read as a tag.
-/

namespace DdlToJava.Console

open Text

namespace Markup

/-! ## pieces -/

/-- a piece of a message, with the backslashes in front of it -/
inductive Piece where
  | char (slashes : Nat) (c : Char)
  | tag (slashes : Nat) (body : List Char)
  | tail (slashes : Nat)
  deriving DecidableEq, Repr

/-- may a tag start with this character? -/
def startsTag (c : Char) : Bool := ('a' ≤ c && c ≤ 'z') || c = '#' || c = '/' || c = '@'

/-- the body of the tag at the front, and what follows the tag -/
def tagAt? : List Char → Option (List Char × List Char)
  | '[' :: c :: cs =>
    if startsTag c then
      match cs.dropWhile (fun x => x ≠ '[' && x ≠ ']') with
      | ']' :: rest => some (c :: cs.takeWhile (fun x => x ≠ '[' && x ≠ ']'), rest)
      | _ => none
    else none
  | _ => none

theorem tagAt?_length {cs body rest : List Char} (h : tagAt? cs = some (body, rest)) :
    rest.length < cs.length := by
  unfold tagAt? at h
  split at h
  · next c cs =>
    split at h
    · split at h
      · next r hr =>
        simp only [Option.some.injEq, Prod.mk.injEq] at h
        have hle := (List.dropWhile_sublist (fun x => x ≠ '[' && x ≠ ']') (l := cs)).length_le
        rw [hr] at hle
        simp only [List.length_cons] at hle ⊢
        rw [← h.2]
        omega
      · simp at h
    · simp at h
  · simp at h

/-- the pieces of a message; `n` backslashes stand before it -/
def pieces (n : Nat) (cs : List Char) : List Piece :=
  match cs with
  | [] => if n = 0 then [] else [.tail n]
  | c :: rest =>
    if c = '\\' then pieces (n + 1) rest
    else
      match _h : tagAt? (c :: rest) with
      | some (body, more) => .tag n body :: pieces 0 more
      | none => .char n c :: pieces 0 rest
termination_by cs.length
decreasing_by
  · simp
  · exact tagAt?_length _h
  · simp

/-! ## parts -/

/-- a part of a message: a run of text between tags, a text that stands for itself, or a tag -/
inductive Part where
  | run (cs : List Char)
  | fixed (cs : List Char)
  | tag (body : List Char)
  deriving DecidableEq, Repr

/-- a row of `n` backslashes -/
def slashes (n : Nat) : List Char := List.replicate n '\\'

/-- put text in front of the run that parts begin with -/
def consRun (cs : List Char) : List Part → List Part
  | .run more :: ps => .run (cs ++ more) :: ps
  | ps => .run cs :: ps

/-- the parts of a message, from its pieces -/
def parts : List Piece → List Part
  | [] => []
  | .char n c :: ps => consRun (slashes (if c = '[' then n - 1 else n) ++ [c]) (parts ps)
  | .tail n :: ps => consRun (slashes n) (parts ps)
  | .tag n body :: ps =>
    .fixed (slashes (n / 2)) ::
      (if n % 2 = 1 then .fixed ('[' :: body ++ [']']) else .tag body) :: parts ps

theorem parts_nil : parts [] = [] := rfl

/-! ## tags -/

/-- what is wrong with the tags of a message -/
inductive Fault where
  /-- a closing tag closes nothing -/
  | nothingToClose
  /-- the parameters of an action cannot be read -/
  | badParameters
  /-- a part of a colour has no digits -/
  | missingPart
  deriving DecidableEq, Repr

/-- what is said of a fault -/
def Fault.message : Fault → String
  | .nothingToClose => "closing tag without an open one"
  | .badParameters => "parameters that cannot be read"
  | .missingPart => "invalid literal for int() with base 10: ''"

/-- a tag that has been opened: the name of its style and what stands behind `=` -/
structure Opened where
  name : String
  parameters : Option (List Char)
  deriving DecidableEq, Repr

/-- the name in the body of a tag and what stands behind `=` -/
def splitBody (body : List Char) : List Char × Option (List Char) :=
  (body.takeWhile (· ≠ '='), (body.dropWhile (· ≠ '=')).tail?)

/-- the name of a style, as it is compared -/
def nameOf (cs : List Char) : Except Fault String :=
  match styleName cs with
  | .ok name => .ok name
  | .error _ => .error .missingPart

/-- may the word in front of the arguments of an action hold this character? -/
def isActionChar (c : Char) : Bool := isWord c || c = '.'

/-- can the parameters of an action be read?  They are a word, a word with arguments in brackets, or
a literal. -/
def areReadable (parameters : List Char) : Bool :=
  match parameters.dropWhile isActionChar with
  | [] => true
  | '(' :: more =>
    if more.getLast? = some ')' ∧ '\n' ∉ more then isLiteral ('(' :: more)
    else isLiteral parameters
  | _ => isLiteral parameters

/-- close a tag; the parameters of an action are read then -/
def close (t : Opened) : Except Fault Unit :=
  match t.name.toList, t.parameters with
  | '@' :: _, some (c :: cs) =>
    if areReadable (trim (c :: cs)) then .ok () else .error .badParameters
  | _, _ => .ok ()

/-- the open tags, the innermost first, without the innermost one that has a name -/
def closeNamed (name : String) : List Opened → Except Fault (List Opened)
  | [] => .error .nothingToClose
  | t :: ts =>
    if t.name = name then do
      close t
      .ok ts
    else do
      let ts ← closeNamed name ts
      .ok (t :: ts)

/-- the open tags, the innermost first, after a tag -/
def applyTag (opened : List Opened) (body : List Char) : Except Fault (List Opened) :=
  match splitBody body with
  | ('/' :: name, _) =>
    if trim name = [] then
      match opened with
      | [] => .error .nothingToClose
      | t :: outer => do
        close t
        .ok outer
    else do
      let name ← nameOf name
      closeNamed name opened
  | (name, parameters) => do
    let name ← nameOf name
    .ok (⟨name, parameters⟩ :: opened)

/-- is there a colour without the digits of a part behind the name of an opening tag? -/
def lacksPart : Part → Bool
  | .tag body =>
    match splitBody body with
    | ('/' :: _, _) => false
    | (name, some parameters) =>
      match nameOf name with
      | .ok name => match Style.ofText (name.toList ++ ' ' :: parameters) with
        | .error .missingPart => true
        | _ => false
      | .error _ => false
    | _ => false
  | _ => false

/-! ## printing -/

/-- what the parts of a message print -/
def printParts (opened : List Opened) : List Part → Except Fault (List Char)
  | [] => .ok []
  | .run cs :: ps => do
    let printed ← printParts opened ps
    .ok (Emoji.replace cs ++ printed)
  | .fixed cs :: ps => do
    let printed ← printParts opened ps
    .ok (Emoji.replace cs ++ printed)
  | .tag body :: ps => do
    let opened ← applyTag opened body
    printParts opened ps

theorem printParts_nil (opened : List Opened) : printParts opened [] = .ok [] := rfl

/-- the control characters that the console leaves out -/
def isDropped (c : Char) : Bool :=
  let n := c.toNat
  n = 7 || n = 8 || n = 11 || n = 12 || n = 13

/-- what a message prints -/
def print (message : String) : Except Fault String := do
  let ps := parts (pieces 0 message.toList)
  let printed ← printParts [] ps
  if ps.any lacksPart then .error .missingPart
  else .ok (String.ofList (expandTabs (printed.filter fun c => !isDropped c)))

/-! ## escaping -/

/-- a piece with its tag made a text -/
def escapePiece : Piece → List Char
  | .char n c => slashes n ++ [c]
  | .tail n => slashes (if n = 1 then 2 else n)
  | .tag n body => slashes (2 * n + 1) ++ '[' :: body ++ [']']

/-- a text as a part of a message -/
def escape (text : String) : String :=
  String.ofList ((pieces 0 text.toList).flatMap escapePiece)

end Markup

end DdlToJava.Console
