import DdlToJava.Proofs.Ddl.Clash
import DdlToJava.Proofs.Ddl.Printed

/-!
# How a Java name begins

A Java name can be used as a name when there is something in it and it does not begin with a digit.
In ASCII a field name and a type name are, but for their capitals, the segments they are made of
(`toLower_fieldName`, `toLower_typeName`).  So the first letter or digit of these segments decides:

* `usable_of_head`, `beginsWithDigit_of_head`
                   a letter in front makes a usable name, and a digit one that begins with it;
* `usable_names`   an identifier begins with a letter, so its names are usable as long as nothing is
                   dropped in front, or when all its segments begin with letters.

When a first segment of three characters or a table prefix is dropped, a digit can come to the
front: `unusable_names`.  Nothing is said of a name whose segments hold no letter and no digit.
-/

namespace DdlToJava

open Text

namespace Identifier

/-! ## the letters of a name -/

section
variable {rules : NamingRules} {name : String}

/-- a name that is spelled soundly is its letters when the capitals are taken out -/
theorem toLower_spell {ls : List Letter} (h : Sound ls) :
    (spell ls).map Char.toLower = ls.map Prod.fst := by
  have hspell := congrArg (List.map Prod.fst) h.letters_spell
  rw [List.map_map] at hspell
  exact hspell

/-- a field name is what its segments form -/
theorem toList_fieldName {field : String} (hfield : rules.fieldName name = .ok field) :
    field.toList = fieldOfSegments rules (fieldSegments rules name) := by
  rw [spell_spelling hfield]
  exact spell_segmentsSpelling _

theorem toLower_fieldName (h : IsAscii name) {field : String}
    (hfield : rules.fieldName name = .ok field) :
    field.toList.map Char.toLower = (fieldSegments rules name).flatten := by
  rw [spell_spelling hfield, toLower_spell (sound_spelling h)]
  exact fst_spelling name

/-- the segments of an identifier that its type name is made of -/
def typeNameSegments (rules : NamingRules) (name : String) : List (List Char) :=
  typeSegments rules (segments name.toList)

/-- a type name is its segments with capitals -/
theorem toList_typeName {type : String} (htype : rules.typeName name = .ok type) :
    type.toList = camel (typeNameSegments rules name) := by
  unfold NamingRules.typeName at htype
  split at htype
  · cases htype
  · cases htype
    exact String.toList_ofList

theorem isSmall_of_mem_segments (h : IsAscii name) {p : List Char}
    (hp : p ∈ segments name.toList) : ∀ c ∈ p, IsSmall c := fun c hc =>
  IsSmall.of_mem_lower h c (mem_of_mem_pieces hc hp)

theorem toLower_typeName (h : IsAscii name) {type : String}
    (htype : rules.typeName name = .ok type) :
    type.toList.map Char.toLower = (typeNameSegments rules name).flatten := by
  have hsound : Sound ((typeNameSegments rules name).flatMap fun p => raise (plain p)) :=
    Sound.raised fun p hp => isSmall_of_mem_segments h (typeSegments_subset rules _ hp)
  rw [toList_typeName htype, ← spell_raised, toLower_spell hsound, fst_raised]

end

/-! ## the first character -/

/-- there is something in the name, and it does not begin with a digit -/
def Usable (name : String) : Prop := ∃ c ∈ name.toList.head?, isDigit c = false

instance (name : String) : Decidable (Usable name) := Option.decidableExistsMem name.toList.head?

/-- the name begins with a digit -/
def BeginsWithDigit (name : String) : Prop := ∃ c ∈ name.toList.head?, isDigit c = true

theorem isDigit_toLower (c : Char) : isDigit c.toLower = isDigit c := by
  by_cases hc : c.toNat < 128
  · exact forall_ascii hc (by decide +kernel)
  · rw [toLower_of_not_ascii hc]

theorem isDigit_of_isAlpha {c : Char} (h : c.isAlpha = true) : isDigit c = false := by
  have hc : c.toNat < 128 := toNat_lt_of_isAlphanum (isAlphanum_of_isAlpha h)
  have hall : c.isAlpha = true → isDigit c = false := forall_ascii hc (by decide +kernel)
  exact hall h

/-- the first letter or digit of the segments comes to the front of the name -/
theorem isDigit_head {name : String} {kept : List (List Char)}
    (h : name.toList.map Char.toLower = kept.flatten) {c : Char}
    (hc : kept.flatten.head? = some c) :
    ∃ d, name.toList.head? = some d ∧ isDigit d = isDigit c := by
  rw [← h, List.head?_map] at hc
  obtain ⟨d, hd, rfl⟩ := Option.map_eq_some_iff.mp hc
  exact ⟨d, hd, (isDigit_toLower d).symm⟩

section
variable {name : String} {kept : List (List Char)}
  (h : name.toList.map Char.toLower = kept.flatten) {c : Char} (hc : kept.flatten.head? = some c)
include h hc

theorem usable_of_head (hdigit : isDigit c = false) : Usable name := by
  obtain ⟨d, hd, heq⟩ := isDigit_head h hc
  exact ⟨d, hd, heq.trans hdigit⟩

theorem beginsWithDigit_of_head (hdigit : isDigit c = true) : BeginsWithDigit name := by
  obtain ⟨d, hd, heq⟩ := isDigit_head h hc
  exact ⟨d, hd, heq.trans hdigit⟩

end

/-! ## identifiers -/

def BeginsWithLetter (p : List Char) : Prop := ∃ c ∈ p.head?, c.isAlpha = true

theorem usable_of_letter {name : String} {p : List Char} {kept : List (List Char)}
    (h : name.toList.map Char.toLower = (p :: kept).flatten) (hp : BeginsWithLetter p) :
    Usable name := by
  obtain ⟨c, hc, hletter⟩ := hp
  refine usable_of_head h ?_ (isDigit_of_isAlpha hletter)
  rw [List.flatten_cons, List.head?_append, hc]
  rfl

theorem isAscii_text (n : Ddl.Name) : IsAscii n.text := by
  intro c hc
  rw [Ddl.Name.text, String.toList_ofList] at hc
  exact Ddl.Name.toNat_lt_of_mem_chars hc

/-- the first segment of an identifier begins with a letter, as the identifier does -/
theorem segments_eq_cons (n : Ddl.Name) :
    ∃ p rest, segments n.chars = p :: rest ∧ BeginsWithLetter p := by
  have hc : n.first.toNat < 128 := Ddl.Name.toNat_lt_of_mem_chars (List.mem_cons_self ..)
  have hletter : n.first.isAlpha = true → n.first.toLower.isAlpha = true ∧ n.first.toLower ≠ '_' :=
    forall_ascii hc (by decide +kernel)
  obtain ⟨cs, hcs⟩ : ∃ cs, lower n.chars = n.first.toLower :: cs :=
    ⟨_, lowerFrom_cons_ascii hc false n.others⟩
  obtain ⟨p, ps, hp⟩ := List.exists_cons_of_ne_nil (pieces_ne_nil '_' cs)
  refine ⟨n.first.toLower :: p, ps, ?_, _, rfl, (hletter n.first_letter).1⟩
  unfold segments
  rw [hcs, pieces_cons_of_ne cs (hletter n.first_letter).2, hp]
  rfl

theorem typeSegments_ne_nil (rules : NamingRules) {parts : List (List Char)} (h : parts ≠ []) :
    typeSegments rules parts ≠ [] := by
  unfold typeSegments
  split
  · exact h
  · next hne => exact hne

/-- how a name begins that is made of some of the segments `parts` -/
structure Begins (parts kept : List (List Char)) (name : String) : Prop where
  /-- the first character of the segments is a letter -/
  letter : ∀ c, kept.flatten.head? = some c → isDigit c = false → Usable name
  /-- the first character of the segments is a digit -/
  digit : ∀ c, kept.flatten.head? = some c → isDigit c = true → BeginsWithDigit name
  /-- nothing is dropped in front -/
  whole : kept.head? = parts.head? → Usable name
  /-- there is a letter in front of every segment -/
  letters : (∀ p ∈ parts, BeginsWithLetter p) → Usable name

theorem begins_of_toLower {n : Ddl.Name} {kept : List (List Char)} {name : String}
    (h : name.toList.map Char.toLower = kept.flatten) (hsub : kept ⊆ segments n.chars)
    (hne : kept ≠ []) : Begins (segments n.chars) kept name where
  letter _ := usable_of_head h
  digit _ := beginsWithDigit_of_head h
  whole hhead := by
    obtain ⟨p, rest, hparts, hp⟩ := segments_eq_cons n
    obtain ⟨q, kept, rfl⟩ := List.exists_cons_of_ne_nil hne
    rw [hparts] at hhead
    cases hhead
    exact usable_of_letter h hp
  letters hparts := by
    obtain ⟨q, kept, rfl⟩ := List.exists_cons_of_ne_nil hne
    exact usable_of_letter h (hparts q (hsub (List.mem_cons_self ..)))

end Identifier

open Identifier

/-- **The names of an identifier can be used where a letter comes to the front**, and begin with a
digit where a digit does.  Segments without a letter or a digit leave nothing to come to the front;
what becomes of them is left out. -/
theorem usable_names (rules : NamingRules) (n : Ddl.Name) :
    ∃ field type, rules.fieldName n.text = .ok field ∧ rules.typeName n.text = .ok type ∧
      Begins (segments n.chars) (fieldSegments rules n.text) field ∧
      Begins (segments n.chars) (typeNameSegments rules n.text) type := by
  have hne : n.text ≠ "" := by
    intro h
    have hchars := congrArg String.toList h
    rw [Ddl.Name.text, String.toList_ofList] at hchars
    cases hchars
  obtain ⟨field, hfield⟩ := Ddl.fieldName_ok rules hne
  obtain ⟨type, htype⟩ := Ddl.typeName_ok rules hne
  have hparts : segments n.chars ≠ [] := pieces_ne_nil '_' (lower n.chars)
  have htext : n.text.toList = n.chars := String.toList_ofList
  refine ⟨field, type, hfield, htype, ?_, ?_⟩
  · apply begins_of_toLower (toLower_fieldName (isAscii_text n) hfield)
    · rw [fieldSegments, htext]
      exact stripShort_subset rules _
    · rw [fieldSegments, htext]
      exact stripShort_ne_nil rules hparts
  · apply begins_of_toLower (toLower_typeName (isAscii_text n) htype)
    · rw [typeNameSegments, htext]
      exact typeSegments_subset rules _
    · rw [typeNameSegments, htext]
      exact typeSegments_ne_nil rules hparts

/-- an identifier with a digit behind its first segment -/
def codeNumber : Ddl.Name where
  first := 'C'
  others := "OD_1X".toList
  first_letter := by decide
  others_word := by decide

/-- the same behind a table prefix -/
def tableNumber : Ddl.Name where
  first := 'T'
  others := "B_1X".toList
  first_letter := by decide
  others_word := by decide

theorem unusable_names :
    (NamingRules.fieldName {} codeNumber.text = .ok "1x" ∧ ¬ Usable "1x") ∧
    NamingRules.typeName {} tableNumber.text = .ok "1x" := by
  decide +kernel

end DdlToJava
