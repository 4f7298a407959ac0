import DdlToJava.JavaType
import Mathlib.Data.List.Infix

/-!
# Tokens in a type name

A type name mentions a token if the token is a part of it, both in capitals.
-/

namespace DdlToJava

open Text TypeClass

theorem occursIn_iff {part cs : List Char} : occursIn part cs = true ↔ part <:+: cs := by
  induction cs with
  | nil => rw [occursIn, List.isEmpty_iff, List.infix_nil]
  | cons c cs ih =>
    rw [occursIn, Bool.or_eq_true, List.isPrefixOf_iff_prefix, ih, List.infix_cons_iff]

/-- is one of the tokens a part of the type name, both in capitals? -/
def HasToken (tokens : List String) (typeName : String) : Prop :=
  ∃ t ∈ tokens, upper t.toList <:+: upper typeName.toList

instance (tokens : List String) (typeName : String) : Decidable (HasToken tokens typeName) :=
  inferInstanceAs (Decidable (∃ t ∈ tokens, upper t.toList <:+: upper typeName.toList))

theorem mentions_iff {tokens : List String} {typeName : String} :
    mentions tokens typeName = true ↔ HasToken tokens typeName := by
  unfold mentions HasToken
  rw [List.any_eq_true]
  exact exists_congr fun t => and_congr_right fun _ => occursIn_iff

end DdlToJava
