import DdlToJava.Proofs.Ddl.Kept
import DdlToJava.Proofs.Text.Case
import DdlToJava.Proofs.Text.Rows

/-!
# Tables that can be read off their artifacts

An artifact is read row by row, so a table can be read off it only if no text of the table has a
line feed.  The schema stands between quotes and a field name behind a space, so these two marks
must not be in them either.

* `lacks_of_mem_columns`  the names of a column have no mark that its identifier does not have;
* `ofDdl_legible`         every table that a statement declares can be read off, as long as the
                          Java types of the rules have no line feed.
-/

namespace DdlToJava

open Text Ddl

/-! ## legible tables -/

/-- the texts of a column -/
def Column.texts (c : Column) : List String :=
  [c.name, c.fieldName, c.accessor, c.targetType, c.constraint]

/-- the column can be read off an artifact -/
structure Column.Legible (c : Column) : Prop where
  oneLine : ∀ s ∈ c.texts, OneLine s
  fieldName : ' ' ∉ c.fieldName.toList

/-- the texts of a table -/
def Table.texts (t : Table) : List String :=
  [t.schema, t.name, t.typeName] ++ t.columns.flatMap Column.texts ++ t.duplicates

/-- the table can be read off its artifacts -/
structure Table.Legible (t : Table) : Prop where
  oneLine : ∀ s ∈ t.texts, OneLine s
  schema : '"' ∉ t.schema.toList
  fieldName : ∀ c ∈ t.columns, ' ' ∉ c.fieldName.toList

theorem Table.Legible.column {t : Table} (h : t.Legible) {c : Column} (hc : c ∈ t.columns) :
    c.Legible := by
  refine ⟨fun s hs => h.oneLine s ?_, h.fieldName c hc⟩
  exact List.mem_append_left _ (List.mem_append_right _ (List.mem_flatMap_of_mem hc hs))

namespace Column.Legible

variable {c : Column} (h : c.Legible)
include h

theorem name : OneLine c.name := h.oneLine _ (by simp [Column.texts])

theorem field : OneLine c.fieldName := h.oneLine _ (by simp [Column.texts])

theorem accessor : OneLine c.accessor := h.oneLine _ (by simp [Column.texts])

theorem targetType : OneLine c.targetType := h.oneLine _ (by simp [Column.texts])

theorem constraint : OneLine c.constraint := h.oneLine _ (by simp [Column.texts])

end Column.Legible

namespace Table.Legible

variable {t : Table} (h : t.Legible)
include h

theorem schemaLine : OneLine t.schema := h.oneLine _ (by simp [Table.texts])

theorem name : OneLine t.name := h.oneLine _ (by simp [Table.texts])

theorem typeName : OneLine t.typeName := h.oneLine _ (by simp [Table.texts])

end Table.Legible

/-! ## types -/

/-- the Java types that the rules can give to a column -/
def TypeRules.targets (types : TypeRules) : List String :=
  [types.number.defaultType, types.number.largeType, types.number.decimalType,
    types.string.targetType, types.date.targetType]

/-- a constraint is one line, and closes its bracket if there is anything in it -/
structure IsConstraint (s : String) : Prop where
  oneLine : OneLine s
  closed : s ≠ "" → s.toList.getLast? = some ')'

theorem oneLine_natRepr (n : Nat) : OneLine (toString n) := not_mem_natRepr rfl n

theorem oneLine_intRepr (n : Int) : OneLine (toString n) := by
  cases n with
  | ofNat n => exact oneLine_natRepr n
  | negSucc n => exact OneLine.append (a := "-") (by decide) (oneLine_natRepr (n + 1))

theorem isConstraint_empty : IsConstraint "" := ⟨by decide, fun h => absurd rfl h⟩

theorem isConstraint_close {s : String} (h : OneLine s) : IsConstraint (s ++ ")") := by
  refine ⟨h.append (by decide), fun _ => ?_⟩
  rw [String.toList_append]
  exact List.getLast?_concat

theorem isConstraint_bounds {p : Int} {suffix c : String} (hsuffix : OneLine suffix)
    (h : JavaType.bounds p suffix = .ok c) : IsConstraint c := by
  unfold JavaType.bounds at h
  split at h
  · cases h
    exact isConstraint_close (s := "@Min(0") (by decide)
  · split at h
    · cases h
    · cases h
      refine isConstraint_close (((by decide : OneLine "@Min(0) @Max(").append ?_).append hsuffix)
      unfold OneLine JavaType.nines
      rw [String.toList_ofList]
      intro hmem
      cases (List.mem_replicate.mp hmem).2

theorem isConstraint_digits (p s : Int) : IsConstraint (JavaType.digits p s) := by
  refine isConstraint_close (((OneLine.append ?_ ?_).append ?_).append (oneLine_intRepr s))
  · decide
  · exact oneLine_intRepr _
  · decide

theorem isConstraint_size (p : Int) : IsConstraint (JavaType.size p) := by
  unfold JavaType.size
  split
  · exact isConstraint_close (OneLine.append (by decide) (oneLine_intRepr p))
  · exact isConstraint_empty

/-- a type is one that the rules name, and its constraint is one -/
theorem javaType_targets {types : TypeRules} {typeName : String} {p s : Int} {type : JavaType}
    (h : types.javaType typeName p s = .ok type) :
    type.name ∈ types.targets ∧ IsConstraint type.constraint := by
  unfold TypeRules.javaType at h
  cases hclass : types.classify typeName with
  | number =>
    rw [hclass] at h
    change types.number.javaType p s = _ at h
    unfold NumberRules.javaType at h
    split at h
    · cases h
      exact ⟨by simp [TypeRules.targets], isConstraint_digits p s⟩
    · split at h
      · obtain ⟨c, hc, rfl⟩ := map_eq_ok h
        exact ⟨by simp [TypeRules.targets], isConstraint_bounds (by decide) hc⟩
      · obtain ⟨c, hc, rfl⟩ := map_eq_ok h
        exact ⟨by simp [TypeRules.targets], isConstraint_bounds (by decide) hc⟩
  | text =>
    rw [hclass] at h
    cases h
    exact ⟨by simp [TypeRules.targets], isConstraint_size p⟩
  | date =>
    rw [hclass] at h
    cases h
    exact ⟨by simp [TypeRules.targets], isConstraint_empty⟩
  | other =>
    rw [hclass] at h
    cases h
    exact ⟨by simp [TypeRules.targets], isConstraint_empty⟩

/-! ## tables of statements -/

section
variable {rules : Rules} {ddl : String} {t : Table} {c : Column} {k : Char}

theorem Ddl.IsWordName.not_mem {s : String} (h : IsWordName s) (hk : isWord k = false) :
    k ∉ s.toList := by
  intro hmem
  rw [h.2 k hmem] at hk
  cases hk

/-- a column stands for a line that declares it -/
theorem exists_line_of_mem_columns (h : Table.ofDdl rules ddl = .ok t) (hc : c ∈ t.columns) :
    ∃ l isKey, IsWordName l.name ∧ Declares rules l isKey c := by
  obtain ⟨-, -, -, hcols, -⟩ := ofDdl_eq_ok.mp h
  obtain ⟨l, hl, hdecl⟩ := exists_of_mem_right hcols hc
  rw [keptLines_eq] at hl
  exact ⟨l, _, isWordName_of_mem_columnLines (firsts_subset hl), hdecl⟩

/-- a mark of ASCII that is in no word is in no name of a column -/
theorem lacks_of_mem_columns (h : Table.ofDdl rules ddl = .ok t) (hc : c ∈ t.columns)
    (hk : Caseless k) (hword : isWord k = false) :
    k ∉ c.name.toList ∧ k ∉ c.fieldName.toList ∧ k ∉ c.accessor.toList := by
  obtain ⟨l, isKey, hname, hdecl⟩ := exists_line_of_mem_columns h hc
  have hlack := hname.not_mem hword
  have hfield : k ∉ c.fieldName.toList := fun hmem => hlack (mem_fieldName hk hdecl.fieldName hmem)
  refine ⟨?_, hfield, ?_⟩
  · rw [hdecl.name]
    exact hlack
  · rw [hdecl.accessor]
    exact fun hmem => hfield (mem_accessorName hk hmem)

theorem type_of_mem_columns (h : Table.ofDdl rules ddl = .ok t) (hc : c ∈ t.columns) :
    c.targetType ∈ rules.types.targets ∧ IsConstraint c.constraint := by
  obtain ⟨l, isKey, -, hdecl⟩ := exists_line_of_mem_columns h hc
  obtain ⟨p, s, -, -, htype⟩ := hdecl.type
  exact javaType_targets htype

/-- a table that a statement declares is legible if the Java types of the rules are -/
theorem ofDdl_legible (h : Table.ofDdl rules ddl = .ok t)
    (htypes : ∀ s ∈ rules.types.targets, OneLine s) : t.Legible := by
  obtain ⟨hschema, hname, htype, -, hdup⟩ := ofDdl_eq_ok.mp h
  obtain ⟨hwordSchema, hwordName⟩ := TableName.ofText_isWordName (unquoted ddl)
  rw [← hschema] at hwordSchema
  rw [← hname] at hwordName
  have hfeed : Caseless '\n' := by decide
  have hfeedWord : isWord '\n' = false := by decide
  constructor
  case oneLine =>
    intro s hs
    rcases List.mem_append.mp hs with hs | hs
    · rcases List.mem_append.mp hs with hs | hs
      · simp only [List.mem_cons, List.not_mem_nil, or_false] at hs
        rcases hs with rfl | rfl | rfl
        · exact hwordSchema.not_mem hfeedWord
        · exact hwordName.not_mem hfeedWord
        · exact fun hmem => hwordName.not_mem hfeedWord (mem_typeName hfeed htype hmem)
      · obtain ⟨c, hc, hs⟩ := List.mem_flatMap.mp hs
        obtain ⟨hcname, hcfield, hcaccessor⟩ := lacks_of_mem_columns h hc hfeed hfeedWord
        obtain ⟨htarget, hconstraint⟩ := type_of_mem_columns h hc
        simp only [Column.texts, List.mem_cons, List.not_mem_nil, or_false] at hs
        rcases hs with rfl | rfl | rfl | rfl | rfl
        · exact hcname
        · exact hcfield
        · exact hcaccessor
        · exact htypes _ htarget
        · exact hconstraint.oneLine
    · rw [hdup, repeatedNames_eq] at hs
      obtain ⟨l, hl, rfl⟩ := List.mem_map.mp hs
      exact (isWordName_of_mem_columnLines (repeats_subset hl)).not_mem hfeedWord
  case schema => exact hwordSchema.not_mem (by decide)
  case fieldName =>
    intro c hc
    exact (lacks_of_mem_columns h hc (by decide) (by decide)).2.1

end

end DdlToJava
