import DdlToJava.Console.EmojiTable
import DdlToJava.Text.Case
import DdlToJava.Text.Space

/-!
# Emoji

A message may call an emoji by its name between two colons, in any case and without white space.
`-text` or `-emoji` behind the name adds a variation selector.  A name that is not known stays as it
is written, together with both colons.
-/

namespace DdlToJava.Console.Emoji

open Text

/-- the characters of the emoji with a name -/
def named? (name : List Char) : Option (List Char) :=
  (emojiTable.lookup (String.ofList name)).map fun codes => codes.map Char.ofNat

/-! ## calls -/

/-- the endings of a name that ask for a variation selector -/
def variants : List (List Char × Char) := [("-text".toList, '\ufe0e'), ("-emoji".toList, '\ufe0f')]

/-- a name without its ending, and the selector that the ending asks for -/
def splitVariant (name : List Char) : List Char × List Char :=
  match variants.find? fun (ending, _) => ending.isSuffixOf name with
  | some (ending, selector) => (name.take (name.length - ending.length), [selector])
  | none => (name, [])

/-- what the name between two colons stands for -/
def called? (name : List Char) : Option (List Char) :=
  let (name, selector) := splitVariant name
  (named? (lower name)).map (· ++ selector)

/-- the name between two colons at the front of a text, and what follows them -/
def call? : List Char → Option (List Char × List Char)
  | ':' :: cs =>
    match cs.dropWhile fun c => c ≠ ':' && !isSpace c with
    | ':' :: rest => some (cs.takeWhile fun c => c ≠ ':' && !isSpace c, rest)
    | _ => none
  | _ => none

theorem call?_length {cs name rest : List Char} (h : call? cs = some (name, rest)) :
    rest.length < cs.length := by
  unfold call? at h
  split at h
  · next cs =>
    have hle := (List.dropWhile_sublist (fun c => c ≠ ':' && !isSpace c) (l := cs)).length_le
    split at h
    · next r hr =>
      simp only [Option.some.injEq, Prod.mk.injEq] at h
      rw [hr] at hle
      simp only [List.length_cons] at hle ⊢
      rw [← h.2]
      omega
    · simp at h
  · simp at h

/-- a text with emoji in the place of their names -/
def replace (cs : List Char) : List Char :=
  match cs with
  | [] => []
  | c :: tail =>
    match _h : call? (c :: tail) with
    | some (name, rest) => (called? name).getD (':' :: name ++ [':']) ++ replace rest
    | none => c :: replace tail
termination_by cs.length
decreasing_by
  · exact call?_length _h
  · simp

theorem replace_nil : replace [] = [] := by rw [replace]

end DdlToJava.Console.Emoji
