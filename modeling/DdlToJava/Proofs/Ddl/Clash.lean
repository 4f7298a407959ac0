import DdlToJava.Proofs.Ddl.Kept
import DdlToJava.Proofs.Text.Capital
import Mathlib.Data.List.Nodup

/-!
# Clashes of Java names

The columns of a table have different names, but a Java name forgets the underscores, a first
segment of three letters and the case of the letters.  What it keeps is the *spelling* of the
name: its letters, and for each whether a capital stands for it.

* `spell_spelling`       a field name is what its spelling spells;
* `spell_raise`          the accessor is that with the first letter raised;
* `upper_spell`          in capitals it does not matter where the capitals stand;
* `spell_inj`            in ASCII different spellings spell different names;
* `javaNames_nodup`      so the Java names of a table differ when their letters do, and in ASCII
                         exactly when their spellings do.
-/

namespace DdlToJava

open Text Ddl

namespace Identifier

/-! ## spellings -/

/-- a letter, and whether a capital stands for it -/
abbrev Letter := Char × Bool

/-- has the character a capital? -/
def hasCapital (c : Char) : Bool := upperChar c ≠ [c]

/-- small letters -/
def plain (cs : List Char) : List Letter := cs.map fun c => (c, false)

/-- the spelling with a capital for the first letter, if there is one -/
def raise : List Letter → List Letter
  | [] => []
  | (c, _) :: ls => (c, hasCapital c) :: ls

/-- the first segment of a field name, as it is spelled -/
def headSpelling (rules : NamingRules) (head : List Char) : List Letter :=
  match gluedPrefix? rules head with
  | some p => plain p ++ raise (plain (head.drop p.length))
  | none => plain head

/-- the segments of a field name, as they are spelled -/
def segmentsSpelling (rules : NamingRules) : List (List Char) → List Letter
  | [] => []
  | head :: rest => headSpelling rules head ++ rest.flatMap fun p => raise (plain p)

/-- the segments of an identifier that its field name is made of -/
def fieldSegments (rules : NamingRules) (name : String) : List (List Char) :=
  stripShort rules (segments name.toList)

/-- the letters of a field name -/
def letters (rules : NamingRules) (name : String) : List Char := (fieldSegments rules name).flatten

/-- the spelling of a field name -/
def spelling (rules : NamingRules) (name : String) : List Letter :=
  segmentsSpelling rules (fieldSegments rules name)

/-- the name that a spelling spells -/
def spell (ls : List Letter) : List Char := ls.flatMap fun l => if l.2 then upperChar l.1 else [l.1]

theorem spell_append (a b : List Letter) : spell (a ++ b) = spell a ++ spell b :=
  List.flatMap_append

theorem spell_cons (l : Letter) (ls : List Letter) :
    spell (l :: ls) = (if l.2 then upperChar l.1 else [l.1]) ++ spell ls := rfl

theorem spell_plain (cs : List Char) : spell (plain cs) = cs := by
  induction cs with
  | nil => rfl
  | cons c cs ih =>
    show [c] ++ spell (plain cs) = c :: cs
    rw [ih]
    rfl

theorem spell_hasCapital (c : Char) (ls : List Letter) :
    spell ((c, hasCapital c) :: ls) = upperChar c ++ spell ls := by
  rw [spell_cons]
  dsimp only
  cases h : hasCapital c with
  | true => rfl
  | false =>
    have hc : upperChar c = [c] := by simpa [hasCapital] using h
    rw [hc]
    rfl

/-- raising the first letter puts a capital in front of the name -/
theorem spell_raise (ls : List Letter) : spell (raise ls) = capitalize (spell ls) := by
  cases ls with
  | nil => rfl
  | cons l ls =>
    obtain ⟨c, b⟩ := l
    rw [raise, spell_hasCapital, spell_cons]
    cases b with
    | true => exact (capitalize_upperChar_append c (spell ls)).symm
    | false => rfl

/-- the segments with a capital each -/
theorem spell_raised (parts : List (List Char)) :
    spell (parts.flatMap fun p => raise (plain p)) = camel parts := by
  induction parts with
  | nil => rfl
  | cons p parts ih =>
    rw [List.flatMap_cons, spell_append, spell_raise, spell_plain, ih, camel_cons]

/-! ## field names -/

section
variable {rules : NamingRules}

theorem isPrefix_of_gluedPrefix? {head p : List Char} (h : gluedPrefix? rules head = some p) :
    p ++ head.drop p.length = head := by
  have hp := List.find?_some h
  obtain ⟨x, rfl⟩ := List.isPrefixOf_iff_prefix.mp (Bool.and_eq_true_iff.mp hp).1
  rw [List.drop_left]

theorem spell_headSpelling (head : List Char) :
    spell (headSpelling rules head) = fieldHead rules head := by
  unfold headSpelling fieldHead
  cases gluedPrefix? rules head with
  | none => exact spell_plain head
  | some p =>
    dsimp only
    rw [spell_append, spell_raise, spell_plain, spell_plain]

theorem spell_segmentsSpelling (parts : List (List Char)) :
    spell (segmentsSpelling rules parts) = fieldOfSegments rules parts := by
  cases parts with
  | nil => rfl
  | cons head rest =>
    show spell (headSpelling rules head ++ _) = fieldHead rules head ++ camel rest
    rw [spell_append, spell_headSpelling, spell_raised]

/-- a field name is what its spelling spells -/
theorem spell_spelling {name field : String} (h : rules.fieldName name = .ok field) :
    field.toList = spell (spelling rules name) := by
  unfold NamingRules.fieldName at h
  split at h
  · cases h
  · cases h
    rw [String.toList_ofList]
    exact (spell_segmentsSpelling _).symm

/-! ## letters -/

theorem fst_plain (cs : List Char) : (plain cs).map Prod.fst = cs := by
  unfold plain
  rw [List.map_map]
  exact List.map_id cs

theorem fst_raise (ls : List Letter) : (raise ls).map Prod.fst = ls.map Prod.fst := by
  cases ls with
  | nil => rfl
  | cons l ls => rfl

theorem fst_raised (parts : List (List Char)) :
    (parts.flatMap fun p => raise (plain p)).map Prod.fst = parts.flatten := by
  induction parts with
  | nil => rfl
  | cons p parts ih =>
    rw [List.flatMap_cons, List.map_append, fst_raise, fst_plain, ih, List.flatten_cons]

theorem fst_headSpelling (head : List Char) : (headSpelling rules head).map Prod.fst = head := by
  unfold headSpelling
  cases h : gluedPrefix? rules head with
  | none => exact fst_plain head
  | some p =>
    dsimp only
    rw [List.map_append, fst_raise, fst_plain, fst_plain]
    exact isPrefix_of_gluedPrefix? h

theorem fst_spelling (name : String) :
    (spelling rules name).map Prod.fst = letters rules name := by
  unfold spelling letters
  cases fieldSegments rules name with
  | nil => rfl
  | cons head rest =>
    rw [segmentsSpelling, List.map_append, fst_headSpelling, fst_raised, List.flatten_cons]

theorem upper_spell (ls : List Letter) : upper (spell ls) = upper (ls.map Prod.fst) := by
  induction ls with
  | nil => rfl
  | cons l ls ih =>
    obtain ⟨c, b⟩ := l
    rw [spell_cons, upper_append, ih, List.map_cons, upper_cons]
    cases b with
    | true => rw [if_pos rfl, upper_upperChar]
    | false =>
      show upper [c] ++ _ = _
      rw [upper_cons, upper_nil, List.append_nil]

/-! ## ASCII -/

/-- small ASCII letters, with capitals only where there are some -/
def Sound (ls : List Letter) : Prop := ∀ l ∈ ls, IsSmall l.1 ∧ (l.2 = true → hasCapital l.1 = true)

theorem Sound.append {a b : List Letter} (ha : Sound a) (hb : Sound b) : Sound (a ++ b) := by
  intro l hl
  rcases List.mem_append.mp hl with hl | hl
  · exact ha l hl
  · exact hb l hl

theorem Sound.plain {cs : List Char} (h : ∀ c ∈ cs, IsSmall c) : Sound (plain cs) := by
  intro l hl
  obtain ⟨c, hc, rfl⟩ := List.mem_map.mp hl
  exact ⟨h c hc, fun hb => nomatch hb⟩

theorem Sound.raise {ls : List Letter} (h : Sound ls) : Sound (raise ls) := by
  cases ls with
  | nil => exact h
  | cons l ls =>
    intro m hm
    rcases List.mem_cons.mp hm with rfl | hm
    · exact ⟨(h l (List.mem_cons_self ..)).1, id⟩
    · exact h m (List.mem_cons_of_mem l hm)

theorem Sound.raised {parts : List (List Char)} (h : ∀ p ∈ parts, ∀ c ∈ p, IsSmall c) :
    Sound (parts.flatMap fun p => Identifier.raise (Identifier.plain p)) := by
  intro l hl
  obtain ⟨p, hp, hl⟩ := List.mem_flatMap.mp hl
  exact (Sound.plain (h p hp)).raise l hl

/-- is the name ASCII? -/
def IsAscii (name : String) : Prop := ∀ c ∈ name.toList, c.toNat < 128

theorem isSmall_of_mem_fieldSegments {name : String} (h : IsAscii name) {p : List Char}
    (hp : p ∈ fieldSegments rules name) : ∀ c ∈ p, IsSmall c := by
  intro c hc
  exact IsSmall.of_mem_lower h c (mem_of_mem_pieces hc (stripShort_subset rules _ hp))

theorem sound_headSpelling {head : List Char} (h : ∀ c ∈ head, IsSmall c) :
    Sound (headSpelling rules head) := by
  unfold headSpelling
  cases hp : gluedPrefix? rules head with
  | none => exact Sound.plain h
  | some p =>
    have hcat := isPrefix_of_gluedPrefix? hp
    refine (Sound.plain fun c hc => h c ?_).append (Sound.plain fun c hc => h c ?_).raise
    · rw [← hcat]
      exact List.mem_append_left _ hc
    · rw [← hcat]
      exact List.mem_append_right _ hc

theorem sound_spelling {name : String} (h : IsAscii name) : Sound (spelling rules name) := by
  have hsmall := fun p => @isSmall_of_mem_fieldSegments rules name h p
  unfold spelling
  cases hparts : fieldSegments rules name with
  | nil => exact fun l hl => nomatch hl
  | cons head rest =>
    rw [hparts] at hsmall
    exact (sound_headSpelling (hsmall head (List.mem_cons_self ..))).append
      (Sound.raised fun p hp => hsmall p (List.mem_cons_of_mem head hp))

/-- a sound spelling is found again in the name -/
theorem Sound.letters_spell {ls : List Letter} (h : Sound ls) :
    (spell ls).map (fun c => (c.toLower, c.isUpper)) = ls := by
  induction ls with
  | nil => rfl
  | cons l ls ih =>
    obtain ⟨c, b⟩ := l
    obtain ⟨hc, hb⟩ := h (c, b) (List.mem_cons_self ..)
    have ih := ih fun m hm => h m (List.mem_cons_of_mem _ hm)
    rw [spell_cons, List.map_append, ih]
    cases b with
    | false => simp [hc.toLower, hc.not_upper]
    | true =>
      have hne : c.toUpper ≠ c := by
        have hcapital := hb rfl
        rw [hasCapital, decide_eq_true_iff, hc.upperChar] at hcapital
        exact fun he => hcapital (by rw [he])
      simp [hc.upperChar, hc.toLower_toUpper, hc.isUpper_toUpper hne]

/-- different sound spellings spell different names -/
theorem spell_inj {a b : List Letter} (ha : Sound a) (hb : Sound b) (h : spell a = spell b) :
    a = b := by
  rw [← ha.letters_spell, h, hb.letters_spell]

end

end Identifier

open Identifier

/-! ## tables -/

/-- the names of the types nested in the transfer objects: an interface for each column, the
request and the response -/
def Table.nestedTypes (t : Table) : List String :=
  t.columns.map (·.accessor) ++ ["Request", "Response"]

/-- the letters of the columns, in capitals -/
def capitals (rules : Rules) (t : Table) : List (List Char) :=
  t.columns.map fun c => upper (letters rules.naming c.name)

/-- the spellings of the fields -/
def fieldSpellings (rules : Rules) (t : Table) : List (List Letter) :=
  t.columns.map fun c => spelling rules.naming c.name

/-- the spellings of the nested types -/
def typeSpellings (rules : Rules) (t : Table) : List (List Letter) :=
  (fieldSpellings rules t ++ [plain "request".toList, plain "response".toList]).map raise

section
variable {rules : Rules} {ddl : String} {t : Table}

theorem fieldName_of_mem (h : Table.ofDdl rules ddl = .ok t) {c : Column} (hc : c ∈ t.columns) :
    c.fieldName.toList = spell (spelling rules.naming c.name) ∧
      c.accessor = accessorName c.fieldName := by
  obtain ⟨-, -, -, hcols, -⟩ := ofDdl_eq_ok.mp h
  obtain ⟨l, -, hdecl⟩ := exists_of_mem_right hcols hc
  rw [hdecl.name]
  exact ⟨spell_spelling hdecl.fieldName, hdecl.accessor⟩

theorem map_fieldName (h : Table.ofDdl rules ddl = .ok t) :
    t.columns.map (·.fieldName.toList) = (fieldSpellings rules t).map spell := by
  unfold fieldSpellings
  rw [List.map_map]
  exact List.map_congr_left fun c hc => (fieldName_of_mem h hc).1

theorem map_nestedTypes (h : Table.ofDdl rules ddl = .ok t) :
    t.nestedTypes.map String.toList = (typeSpellings rules t).map spell := by
  have haccessors : t.columns.map (·.accessor.toList) =
      (t.columns.map (·.fieldName.toList)).map capitalize := by
    rw [List.map_map]
    refine List.map_congr_left fun c hc => ?_
    rw [(fieldName_of_mem h hc).2]
    exact String.toList_ofList
  have hraise : ∀ ls : List (List Letter),
      (ls.map raise).map spell = (ls.map spell).map capitalize := by
    intro ls
    rw [List.map_map, List.map_map]
    exact List.map_congr_left fun l _ => spell_raise l
  unfold Table.nestedTypes typeSpellings
  rw [hraise, List.map_append, List.map_append, List.map_map, ← map_fieldName h, List.map_append]
  exact congrArg₂ _ haccessors rfl

/-- in capitals, the Java names are the letters -/
theorem map_upper_spell (rules : Rules) (t : Table) :
    ((fieldSpellings rules t).map spell).map upper = capitals rules t := by
  unfold fieldSpellings capitals
  rw [List.map_map, List.map_map]
  refine List.map_congr_left fun c _ => ?_
  show upper (spell (spelling rules.naming c.name)) = _
  rw [upper_spell, fst_spelling]

theorem map_upper_spell_types (rules : Rules) (t : Table) :
    ((typeSpellings rules t).map spell).map upper =
      capitals rules t ++ ["REQUEST".toList, "RESPONSE".toList] := by
  have hraise : ∀ ls : List (List Letter),
      ((ls.map raise).map spell).map upper = (ls.map spell).map upper := by
    intro ls
    rw [List.map_map, List.map_map, List.map_map]
    refine List.map_congr_left fun l _ => ?_
    show upper (spell (raise l)) = upper (spell l)
    rw [spell_raise, upper_capitalize]
  unfold typeSpellings
  rw [hraise, List.map_append, List.map_append, map_upper_spell]
  rfl

theorem sound_fieldSpellings (h : ∀ c ∈ t.columns, IsAscii c.name) :
    ∀ ls ∈ fieldSpellings rules t, Sound ls := by
  intro ls hls
  obtain ⟨c, hc, rfl⟩ := List.mem_map.mp hls
  exact sound_spelling (h c hc)

theorem sound_typeSpellings (h : ∀ c ∈ t.columns, IsAscii c.name) :
    ∀ ls ∈ typeSpellings rules t, Sound ls := by
  have hword : ∀ w : List Char, lower w = w → (∀ c ∈ w, c.toNat < 128) → Sound (plain w) := by
    intro w hw hascii
    apply Sound.plain
    rw [← hw]
    exact IsSmall.of_mem_lower hascii
  intro ls hls
  obtain ⟨m, hm, rfl⟩ := List.mem_map.mp hls
  apply Sound.raise
  rcases List.mem_append.mp hm with hm | hm
  · exact sound_fieldSpellings h m hm
  · rcases List.mem_cons.mp hm with rfl | hm
    · exact hword _ (by decide +kernel) (by decide)
    · rw [List.mem_singleton.mp hm]
      exact hword _ (by decide +kernel) (by decide)

theorem nodup_map_spell {lss : List (List Letter)} (h : ∀ ls ∈ lss, Sound ls) :
    (lss.map spell).Nodup ↔ lss.Nodup := by
  constructor
  · exact List.Nodup.of_map spell
  · exact List.Nodup.map_on fun a ha b hb he => spell_inj (h a ha) (h b hb) he

theorem nodup_map_toList {ss : List String} : (ss.map String.toList).Nodup ↔ ss.Nodup :=
  List.nodup_map_iff fun _ _ he => String.toList_injective he

/-- **The Java names of a table clash through their spelling only.**  The names of its columns are
different.  Columns with different letters have different Java names, and the interface of a column
is none of the other nested types unless its letters are theirs.  In ASCII the Java names are
different exactly when they are spelled differently. -/
theorem javaNames_nodup (h : Table.ofDdl rules ddl = .ok t) :
    (t.columns.map (·.name)).Nodup ∧
    ((capitals rules t).Nodup → (t.columns.map (·.fieldName)).Nodup) ∧
    ((capitals rules t ++ ["REQUEST".toList, "RESPONSE".toList]).Nodup → t.nestedTypes.Nodup) ∧
    ((∀ c ∈ t.columns, IsAscii c.name) →
      ((t.columns.map (·.fieldName)).Nodup ↔ (fieldSpellings rules t).Nodup) ∧
      (t.nestedTypes.Nodup ↔ (typeSpellings rules t).Nodup)) := by
  have hfields : ((fieldSpellings rules t).map spell).Nodup ↔
      (t.columns.map (·.fieldName)).Nodup := by
    rw [← map_fieldName h, ← nodup_map_toList, List.map_map]
    rfl
  have htypes : ((typeSpellings rules t).map spell).Nodup ↔ t.nestedTypes.Nodup := by
    rw [← map_nestedTypes h, nodup_map_toList]
  refine ⟨?_, fun hn => ?_, fun hn => ?_, fun hascii => ⟨?_, ?_⟩⟩
  · obtain ⟨-, -, -, hcols, -⟩ := ofDdl_eq_ok.mp h
    rw [names_of_declares hcols, keptLines_eq]
    exact nodup_map_firsts
  · rw [← map_upper_spell] at hn
    exact hfields.mp (List.Nodup.of_map upper hn)
  · rw [← map_upper_spell_types] at hn
    exact htypes.mp (List.Nodup.of_map upper hn)
  · rw [← hfields, nodup_map_spell (sound_fieldSpellings hascii)]
  · rw [← htypes, nodup_map_spell (sound_typeSpellings hascii)]

end

/-- two columns of different letters -/
def namedApart : String := "CREATE TABLE TB_PAIS (\nCD_PAIS NUMBER(3),\nPES_NOME CHAR(2)\n)"

def namedApartTable : Table where
  schema := "dbo"
  name := "TB_PAIS"
  typeName := "Pais"
  columns := [⟨"CD_PAIS", "cdPais", "CdPais", "Integer", "@Min(0) @Max(999)", false⟩,
    ⟨"PES_NOME", "nome", "Nome", "String", "@Size(max = 2)", false⟩]

theorem javaNames_nodup_apart :
    Table.ofDdl {} namedApart = .ok namedApartTable ∧
      (namedApartTable.columns.map (·.fieldName)).Nodup ∧ namedApartTable.nestedTypes.Nodup := by
  have h : Table.ofDdl {} namedApart = .ok namedApartTable := by decide +kernel
  have hascii : ∀ c ∈ namedApartTable.columns, IsAscii c.name := by
    unfold IsAscii
    decide
  obtain ⟨-, hfields, -, hexact⟩ := javaNames_nodup h
  exact ⟨h, hfields (by decide +kernel), (hexact hascii).2.mpr (by decide +kernel)⟩

/-- a name in capitals and the same name in small letters -/
def twiceNamed : String := "CREATE TABLE TB_PAIS (\n  CD_PAIS NUMBER(3),\n  cd_pais NUMBER(3)\n);\n"

def twiceNamedTable : Table where
  schema := "dbo"
  name := "TB_PAIS"
  typeName := "Pais"
  columns := [⟨"CD_PAIS", "cdPais", "CdPais", "Integer", "@Min(0) @Max(999)", false⟩,
    ⟨"cd_pais", "cdPais", "CdPais", "Integer", "@Min(0) @Max(999)", false⟩]

/-- a column that is named like a nested type -/
def requestNamed : String := "CREATE TABLE T (\nREQUEST CHAR(2)\n)"

def requestNamedTable : Table where
  schema := "dbo"
  name := "T"
  typeName := "T"
  columns := [⟨"REQUEST", "request", "Request", "String", "@Size(max = 2)", false⟩]

/-- both columns are kept, and their Java names are the same; the one column of the other table
clashes with the request -/
theorem javaNames_clash :
    (Table.ofDdl {} twiceNamed = .ok twiceNamedTable ∧
      ¬ (twiceNamedTable.columns.map (·.fieldName)).Nodup ∧ ¬ twiceNamedTable.nestedTypes.Nodup) ∧
    Table.ofDdl {} requestNamed = .ok requestNamedTable ∧ ¬ requestNamedTable.nestedTypes.Nodup :=
  ⟨⟨by decide +kernel, by decide, by decide⟩, by decide +kernel, by decide⟩

end DdlToJava
