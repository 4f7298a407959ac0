import DdlToJava.Rules.Reader

/-!
# The schema of the rules

`Rules.schema` lists what the rules are made of, in the order of their declaration: every section
and every leaf, each with the keys that lead to it from the top.  The readers go through the rules
section by section; they come to what the list says entry by entry.

* `Json.locate?`      the value at the end of a row of keys, and the spellings that are found there;
* `Entry.problems`, `Entry.value`
                      what is read of one entry, whatever stands beside it;
* `Reads`             a reader of a section reads its entries one by one;
* `Reads.problems_part`, `Reads.values_part`
                      a section as a part of another one;
* `reads_schema`      the rules are read entry by entry;
* `ext_schema`        nothing but the leaves is in the rules.
-/

namespace DdlToJava

/-! ## places in a value -/

/-- the two spellings of a key; the first one wins -/
abbrev Spelling := String × String

namespace Json

/-- the value that counts for a key, and the spelling that it has -/
def spelled? (fields : List (String × Json)) (s : Spelling) : Option (String × Json) :=
  match find? fields s.1 with
  | some v => some (s.1, v)
  | none => (find? fields s.2).map fun v => (s.2, v)

/-- the value at the end of a row of keys, and the spellings on the way to it -/
def locate? : List Spelling → Json → Option (List String × Json)
  | [], v => some ([], v)
  | s :: rest, .object fields =>
    (spelled? fields s).bind fun x => (locate? rest x.2).map fun y => (x.1 :: y.1, y.2)
  | _ :: _, _ => none

theorem locate?_nil (v : Json) : locate? [] v = some ([], v) := by
  unfold locate?
  rfl

theorem locate?_object (s : Spelling) (rest : List Spelling) (fields : List (String × Json)) :
    locate? (s :: rest) (.object fields) =
      (spelled? fields s).bind fun x => (locate? rest x.2).map fun y => (x.1 :: y.1, y.2) := rfl

/-- is the value an object? -/
def isObject : Json → Bool
  | .object _ => true
  | _ => false

theorem locate?_of_not_object {v : Json} (h : v.isObject = false) (s : Spelling)
    (rest : List Spelling) : locate? (s :: rest) v = none := by
  cases v with
  | object fields => cases h
  | _ => rfl

end Json

namespace Rules

open Json Reading

/-- a problem of the value at the end of a row of keys -/
def Problem.below (keys : List String) (p : Problem) : Problem :=
  { p with place := keys.map .key ++ p.place }

/-! ## entries -/

/-- what an entry of the rules is: a section, or a leaf of one of five types -/
inductive Kind where
  | group
  | text
  | texts
  | path
  | switch
  | integer
  deriving DecidableEq, Repr

namespace Kind

/-- what an entry holds; a section holds nothing by itself -/
abbrev Value : Kind → Type
  | .group => Unit
  | .text => String
  | .texts => List String
  | .path => Path
  | .switch => Bool
  | .integer => Int

/-- how an entry by itself is read -/
def read : (k : Kind) → Json → Reading k.Value
  | .group => sectionOf () fun _ => ok ()
  | .text => leafString
  | .texts => leafStrings
  | .path => leafPath
  | .switch => leafBool
  | .integer => leafInt

end Kind

/-- an entry of a part `σ` of the rules -/
structure Entry (σ : Type) where
  kind : Kind
  /-- the keys on the way from the part to the entry -/
  keys : List Spelling
  /-- the value of the entry -/
  get : σ → kind.Value

section
variable {σ τ : Type}

namespace Entry

/-- the problems of an entry, if it is there -/
def problems (e : Entry σ) (v : Json) : List Problem :=
  match v.locate? e.keys with
  | none => []
  | some (keys, u) => (e.kind.read u).problems.map (.below keys)

/-- what is read of an entry, or its built-in value -/
def value (base : σ) (e : Entry σ) (v : Json) : e.kind.Value :=
  match v.locate? e.keys with
  | none => e.get base
  | some (_, u) => (e.kind.read u).value

/-- an entry of a section as an entry of what the section is a part of -/
def inside (s : Spelling) (part : τ → σ) (e : Entry σ) : Entry τ where
  kind := e.kind
  keys := s :: e.keys
  get t := e.get (part t)

end Entry

/-- the entries of a section, with the section itself in front of them -/
def group (s : Spelling) (part : τ → σ) (es : List (Entry σ)) : List (Entry τ) :=
  ⟨.group, [s], fun _ => ()⟩ :: es.map (.inside s part)

/-! ## one entry -/

theorem part_eq {α : Type} (s : Spelling) (default : α) (read : Json → Reading α)
    (fs : List (String × Json)) :
    part s.1 s.2 default read fs =
      match spelled? fs s with
      | none => ok default
      | some (k, v) => (read v).under (.key k) := by
  unfold part spelled?
  cases find? fs s.1 with
  | some v => rfl
  | none =>
    cases find? fs s.2 with
    | some v => rfl
    | none => rfl

section
variable (k : Kind) (s : Spelling) (get : σ → k.Value) (base : σ) (fs : List (String × Json))

/-- an entry with one key has the problems of that part of the object -/
theorem problems_single :
    Entry.problems ⟨k, [s], get⟩ (.object fs) = (part s.1 s.2 (get base) k.read fs).problems := by
  rw [part_eq]
  unfold Entry.problems
  dsimp only
  rw [locate?_object]
  cases spelled? fs s with
  | none => rfl
  | some x =>
    rw [Option.bind_some, locate?_nil]
    rfl

/-- an entry with one key has the value of that part of the object -/
theorem value_single :
    Entry.value base ⟨k, [s], get⟩ (.object fs) = (part s.1 s.2 (get base) k.read fs).value := by
  rw [part_eq]
  unfold Entry.value
  dsimp only
  rw [locate?_object]
  cases spelled? fs s with
  | none => rfl
  | some x =>
    rw [Option.bind_some, locate?_nil]
    rfl

end

section
variable (s : Spelling) (part : τ → σ) (e : Entry σ) (base : τ) (fs : List (String × Json))

/-- the problems of an entry inside a section are found in the value of the section -/
theorem problems_inside :
    (e.inside s part).problems (.object fs) =
      match spelled? fs s with
      | none => []
      | some (k, v) => (e.problems v).map (.below [k]) := by
  unfold Entry.problems Entry.inside
  dsimp only
  rw [locate?_object]
  cases spelled? fs s with
  | none => rfl
  | some x =>
    rw [Option.bind_some]
    dsimp only
    cases x.2.locate? e.keys with
    | none => rfl
    | some y =>
      rw [Option.map_some]
      dsimp only
      rw [List.map_map]
      rfl

/-- the value of an entry inside a section is found in the value of the section -/
theorem value_inside :
    (e.inside s part).value base (.object fs) =
      match spelled? fs s with
      | none => e.get (part base)
      | some (_, v) => e.value (part base) v := by
  unfold Entry.value Entry.inside
  dsimp only
  rw [locate?_object]
  cases spelled? fs s with
  | none => rfl
  | some x =>
    rw [Option.bind_some]
    dsimp only
    cases x.2.locate? e.keys with
    | none => rfl
    | some y => rfl

end

/-- there is no entry in what is no object -/
theorem locate?_keys_of_not_object {e : Entry σ} (he : e.keys ≠ []) {v : Json}
    (h : v.isObject = false) : v.locate? e.keys = none := by
  cases hkeys : e.keys with
  | nil => exact absurd hkeys he
  | cons s rest => exact locate?_of_not_object h s rest

theorem sectionOf_of_not_object {α : Type} (default : α)
    (read : List (String × Json) → Reading α) {v : Json} (h : v.isObject = false) :
    sectionOf default read v = fail default .notObject := by
  cases v with
  | object fields => cases h
  | _ => rfl

/-! ## reading entry by entry -/

/-- The fields of an object are read entry by entry. -/
structure Reads (base : σ) (read : List (String × Json) → Reading σ) (es : List (Entry σ)) :
    Prop where
  /-- every entry has a key -/
  keyed : ∀ e ∈ es, e.keys ≠ []
  /-- the problems are those of the entries, one entry after the other -/
  problems : ∀ fs, (read fs).problems = es.flatMap (·.problems (.object fs))
  /-- the value of an entry is what is read of it -/
  values : ∀ fs, ∀ e ∈ es, e.get (read fs).value = e.value base (.object fs)

namespace Reads

variable {read : List (String × Json) → Reading σ} {es : List (Entry σ)} (part : τ → σ) (base : τ)
  (h : Reads (part base) read es) (s : Spelling) (fs : List (String × Json))
include h

/-- the problems of a section are its own and those of its entries -/
theorem problems_part :
    (Rules.part s.1 s.2 (part base) (sectionOf (part base) read) fs).problems =
      (group s part es).flatMap (·.problems (.object fs)) := by
  unfold group
  rw [List.flatMap_cons, List.flatMap_map, problems_single .group s (fun _ => ()) base, part_eq,
    part_eq]
  simp only [problems_inside]
  cases spelled? fs s with
  | none =>
    dsimp only
    rw [List.flatMap_eq_nil_iff.mpr fun _ _ => rfl]
    rfl
  | some x =>
    obtain ⟨k, v⟩ := x
    dsimp only
    cases hv : v.isObject with
    | false =>
      have hnone : ∀ e ∈ es, (e.problems v).map (Problem.below [k]) = [] := fun e he => by
        unfold Entry.problems
        rw [locate?_keys_of_not_object (h.keyed e he) hv]
        rfl
      have hgroup : Kind.group.read v = fail () .notObject := sectionOf_of_not_object _ _ hv
      rw [List.flatMap_eq_nil_iff.mpr hnone, List.append_nil, sectionOf_of_not_object _ _ hv,
        hgroup]
      rfl
    | true =>
      cases v with
      | object gs =>
        show (read gs).problems.map (Problem.below [k]) = _
        rw [h.problems gs, List.map_flatMap]
        rfl
      | _ => cases hv

/-- the values of the entries of a section are those of the section -/
theorem values_part {t : τ}
    (ht : part t = (Rules.part s.1 s.2 (part base) (sectionOf (part base) read) fs).value) :
    ∀ e ∈ group s part es, e.get t = e.value base (.object fs) := by
  intro e he
  rcases List.mem_cons.mp he with rfl | he
  · rfl
  · obtain ⟨e, hmem, rfl⟩ := List.mem_map.mp he
    show e.get (part t) = _
    rw [ht, part_eq, value_inside]
    cases spelled? fs s with
    | none => rfl
    | some x =>
      obtain ⟨k, v⟩ := x
      dsimp only
      cases hv : v.isObject with
      | false =>
        rw [sectionOf_of_not_object _ _ hv]
        unfold Entry.value
        rw [locate?_keys_of_not_object (h.keyed e hmem) hv]
        rfl
      | true =>
        cases v with
        | object gs => exact h.values gs e hmem
        | _ => cases hv

end Reads

end

/-! ## the schema -/

def namingSchema : List (Entry NamingRules) := [
  ⟨.texts, [("knownPrefixes", "known_prefixes")], NamingRules.knownPrefixes⟩,
  ⟨.texts, [("tablePrefixes", "table_prefixes")], NamingRules.tablePrefixes⟩,
  ⟨.switch, [("stripThreeLetterPrefix", "strip_three_letter_prefix")],
    NamingRules.stripThreeLetterPrefix⟩]

def numberSchema : List (Entry NumberRules) := [
  ⟨.texts, [("tokens", "tokens")], NumberRules.tokens⟩,
  ⟨.text, [("defaultType", "default_type")], NumberRules.defaultType⟩,
  ⟨.integer, [("largeThreshold", "large_threshold")], NumberRules.largeThreshold⟩,
  ⟨.text, [("largeType", "large_type")], NumberRules.largeType⟩,
  ⟨.text, [("decimalType", "decimal_type")], NumberRules.decimalType⟩]

def stringSchema : List (Entry StringRules) := [
  ⟨.text, [("type", "target_type")], StringRules.targetType⟩,
  ⟨.texts, [("tokens", "tokens")], StringRules.tokens⟩]

def dateSchema : List (Entry DateRules) := [
  ⟨.text, [("type", "target_type")], DateRules.targetType⟩,
  ⟨.texts, [("tokens", "tokens")], DateRules.tokens⟩]

def typesSchema : List (Entry TypeRules) :=
  group ("number", "number") TypeRules.number numberSchema ++
  group ("string", "string") TypeRules.string stringSchema ++
  group ("date", "date") TypeRules.date dateSchema

def validationSchema : List (Entry ValidationRules) := [
  ⟨.switch, [("enabled", "enabled")], ValidationRules.enabled⟩,
  ⟨.text, [("stringMarker", "string_marker")], ValidationRules.stringMarker⟩,
  ⟨.text, [("otherMarker", "other_marker")], ValidationRules.otherMarker⟩,
  ⟨.switch, [("schemaAnnotation", "schema_annotation")], ValidationRules.schemaNote⟩]

def outputSchema : List (Entry OutputRules) := [
  ⟨.path, [("directory", "directory")], OutputRules.directory⟩,
  ⟨.text, [("entitySuffix", "entity_suffix")], OutputRules.entitySuffix⟩,
  ⟨.text, [("dtoSuffix", "dto_suffix")], OutputRules.dtoSuffix⟩,
  ⟨.text, [("indent", "indent")], OutputRules.indent⟩]

/-- all entries of the rules, in the order of their declaration -/
def schema : List (Entry Rules) :=
  group ("naming", "naming") Rules.naming namingSchema ++
  group ("typeMapping", "type_mapping") Rules.types typesSchema ++
  group ("validation", "validation") Rules.validation validationSchema ++
  group ("output", "output") Rules.output outputSchema

/-! ## the readers -/

theorem reads_naming : Reads {} readNaming namingSchema where
  keyed := by decide
  problems fs := by
    simp only [namingSchema, List.flatMap_cons, List.flatMap_nil,
      problems_single _ _ _ ({} : NamingRules), ← List.append_assoc, List.append_nil]
    rfl
  values fs := by
    simp only [namingSchema, List.forall_mem_cons, value_single]
    exact ⟨rfl, rfl, rfl, nofun⟩

theorem reads_number : Reads {} readNumber numberSchema where
  keyed := by decide
  problems fs := by
    simp only [numberSchema, List.flatMap_cons, List.flatMap_nil,
      problems_single _ _ _ ({} : NumberRules), ← List.append_assoc, List.append_nil]
    rfl
  values fs := by
    simp only [numberSchema, List.forall_mem_cons, value_single]
    exact ⟨rfl, rfl, rfl, rfl, rfl, nofun⟩

theorem reads_string : Reads {} readString stringSchema where
  keyed := by decide
  problems fs := by
    simp only [stringSchema, List.flatMap_cons, List.flatMap_nil,
      problems_single _ _ _ ({} : StringRules), List.append_nil]
    rfl
  values fs := by
    simp only [stringSchema, List.forall_mem_cons, value_single]
    exact ⟨rfl, rfl, nofun⟩

theorem reads_date : Reads {} readDate dateSchema where
  keyed := by decide
  problems fs := by
    simp only [dateSchema, List.flatMap_cons, List.flatMap_nil,
      problems_single _ _ _ ({} : DateRules), List.append_nil]
    rfl
  values fs := by
    simp only [dateSchema, List.forall_mem_cons, value_single]
    exact ⟨rfl, rfl, nofun⟩

theorem reads_validation : Reads {} readValidation validationSchema where
  keyed := by decide
  problems fs := by
    simp only [validationSchema, List.flatMap_cons, List.flatMap_nil,
      problems_single _ _ _ ({} : ValidationRules), ← List.append_assoc, List.append_nil]
    rfl
  values fs := by
    simp only [validationSchema, List.forall_mem_cons, value_single]
    exact ⟨rfl, rfl, rfl, rfl, nofun⟩

theorem reads_output : Reads {} readOutput outputSchema where
  keyed := by decide
  problems fs := by
    simp only [outputSchema, List.flatMap_cons, List.flatMap_nil,
      problems_single _ _ _ ({} : OutputRules), ← List.append_assoc, List.append_nil]
    rfl
  values fs := by
    simp only [outputSchema, List.forall_mem_cons, value_single]
    exact ⟨rfl, rfl, rfl, rfl, nofun⟩

theorem reads_types : Reads {} readTypes typesSchema where
  keyed := by decide
  problems fs := by
    unfold typesSchema
    rw [List.flatMap_append, List.flatMap_append,
      ← Reads.problems_part TypeRules.number {} reads_number,
      ← Reads.problems_part TypeRules.string {} reads_string,
      ← Reads.problems_part TypeRules.date {} reads_date]
    rfl
  values fs e he := by
    rcases List.mem_append.mp he with he | he
    · rcases List.mem_append.mp he with he | he
      · exact Reads.values_part TypeRules.number {} reads_number _ fs rfl e he
      · exact Reads.values_part TypeRules.string {} reads_string _ fs rfl e he
    · exact Reads.values_part TypeRules.date {} reads_date _ fs rfl e he

/-- **the rules are read entry by entry** -/
theorem reads_schema : Reads {} readSections schema where
  keyed := by decide
  problems fs := by
    unfold schema
    rw [List.flatMap_append, List.flatMap_append, List.flatMap_append,
      ← Reads.problems_part Rules.naming {} reads_naming,
      ← Reads.problems_part Rules.types {} reads_types,
      ← Reads.problems_part Rules.validation {} reads_validation,
      ← Reads.problems_part Rules.output {} reads_output]
    rfl
  values fs e he := by
    rcases List.mem_append.mp he with he | he
    · rcases List.mem_append.mp he with he | he
      · rcases List.mem_append.mp he with he | he
        · exact Reads.values_part Rules.naming {} reads_naming _ fs rfl e he
        · exact Reads.values_part Rules.types {} reads_types _ fs rfl e he
      · exact Reads.values_part Rules.validation {} reads_validation _ fs rfl e he
    · exact Reads.values_part Rules.output {} reads_output _ fs rfl e he

/-- rules whose leaves are the same are the same -/
theorem ext_schema {r r' : Rules} (h : ∀ e ∈ schema, e.get r = e.get r') : r = r' := by
  obtain ⟨⟨_, _, _⟩, ⟨⟨_, _, _, _, _⟩, ⟨_, _⟩, ⟨_, _⟩⟩, ⟨_, _, _, _⟩, ⟨_, _, _, _⟩⟩ := r
  obtain ⟨⟨_, _, _⟩, ⟨⟨_, _, _, _, _⟩, ⟨_, _⟩, ⟨_, _⟩⟩, ⟨_, _, _, _⟩, ⟨_, _, _, _⟩⟩ := r'
  simp only [schema, typesSchema, namingSchema, numberSchema, stringSchema, dateSchema,
    validationSchema, outputSchema, group, Entry.inside, List.map_cons, List.map_nil,
    List.cons_append, List.nil_append, List.forall_mem_cons] at h
  simp only [Rules.mk.injEq, NamingRules.mk.injEq, TypeRules.mk.injEq, NumberRules.mk.injEq,
    StringRules.mk.injEq, DateRules.mk.injEq, ValidationRules.mk.injEq, OutputRules.mk.injEq]
  simpa [and_assoc] using h

end Rules

end DdlToJava
