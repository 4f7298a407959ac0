import DdlToJava.Proofs.Artifact.Dto
import DdlToJava.Proofs.Artifact.Entity

/-!
# The two artifacts of a table agree

The entity and the transfer objects are written by two writers, in four loops over the columns.
Read back, they declare the same fields in the same order; every column has an interface with one
getter, and both clauses name these interfaces.

* `entityFields_lines`  the fields of the entity are read one by one;
* `artifacts_agree`     the two side by side, for every table that a statement declares;
* `artifacts_disagree`  where markers and empty names come in the way.
-/

namespace DdlToJava

open Text Outline

namespace Outline

/-! ## the entity -/

/-- the fields of a class are read one by one -/
theorem filterMap_fields (indent : String) {cs : List Column} (hcs : ∀ c ∈ cs, c.Regular) :
    (Entity.fields indent cs).filterMap (field? indent) = cs.map Column.member := by
  induction cs with
  | nil => rfl
  | cons c cs ih =>
    have hrest := ih fun d hd => hcs d (List.mem_cons_of_mem _ hd)
    have hid : field? indent (indent ++ "@Id") = none :=
      field?_eq_none (getLast?_append_ne _ (by decide) (by decide))
    have hname : field? indent (indent ++ Entity.columnRow c) = none := by
      refine field?_eq_none ?_
      unfold Entity.columnRow
      rw [← String.append_assoc]
      exact getLast?_append_ne _ (by decide) (by decide)
    have hfield : field? indent (indent ++ Entity.fieldRow c) = some c.member := by
      have hrow := field?_row indent c.targetType (hcs c (List.mem_cons_self ..)).fieldName
      unfold Entity.fieldRow
      simp only [← String.append_assoc]
      exact hrow
    have hlines : (Entity.fieldLines indent c).filterMap (field? indent) = [c.member] := by
      rw [Entity.fieldLines_eq, List.filterMap_append, List.filterMap_cons_none hname,
        List.filterMap_cons_some hfield]
      cases c.isKey with
      | true =>
        rw [if_pos rfl, List.filterMap_cons_none hid]
        rfl
      | false => rfl
    rw [Entity.fields_cons, List.cons_append, List.filterMap_cons_none (field?_eq_none (by decide)),
      List.filterMap_append, hlines, hrest]
    rfl

theorem entityFields_lines (indent : String) {t : Table} (h : ∀ c ∈ t.columns, c.Regular) :
    entityFields indent (Entity.lines indent t) = t.columns.map Column.member := by
  have hversion : (versionRow indent).toList.getLast? = some ';' := getLast?_append _ (by decide)
  have hlines : Entity.lines indent t =
      ("/** JAVA ENTITY **/" :: "" :: "@Data" :: "@Entity" :: Entity.tableRow t ::
        ((if t.hasCompositeKey then [Entity.idClassRow t] else []) ++
          [Entity.classRow t, "", indent ++ "@Serial"])) ++
        versionRow indent :: (Entity.fields indent t.columns ++ ["\x7d"]) := by
    unfold Entity.lines versionRow
    rw [Entity.head_eq]
    simp only [List.append_assoc, List.cons_append, List.nil_append]
  unfold entityFields
  rw [hlines, dropWhile_ne, List.tail_cons, List.filterMap_append, filterMap_fields indent h,
    List.filterMap_cons_none (field?_eq_none (by decide)), List.filterMap_nil, List.append_nil]
  -- no row above the version ends in a semicolon
  intro other hother
  refine (ne_of_getLast? ';' hversion ?_).symm
  simp only [List.mem_cons, List.mem_append, List.not_mem_nil, or_false] at hother
  rcases hother with rfl | rfl | rfl | rfl | rfl | hid | rfl | rfl | rfl
  · decide
  · decide
  · decide
  · decide
  · exact getLast?_append_ne _ (by decide) (by decide)
  · split at hid
    · rw [List.mem_singleton.mp hid]
      exact getLast?_append_ne _ (by decide) (by decide)
    · cases hid
  · exact getLast?_append_ne _ (by decide) (by decide)
  · decide
  · exact getLast?_append_ne _ (by decide) (by decide)

end Outline

/-! ## side by side -/

/-- the names of the interfaces as a clause shows them: there is no clause for a single name that
is empty -/
def Outline.shownNames (o : Outline) : List String :=
  if o.interfaces.map (·.name) = [""] then [] else o.interfaces.map (·.name)

/-- The transfer objects go with an entity that has the fields `entity`. -/
structure Outline.GoesWith (o : Outline) (entity : List Member) : Prop where
  fields : o.fields = entity
  /-- every field has an interface, whose only method is the field's accessor -/
  interfaces : o.interfaces = entity.map Member.interface
  implemented : o.implemented = o.shownNames
  extended : o.extended = o.shownNames
  noClause : entity = [] → o.implemented = [] ∧ o.extended = []

/-- the outline of a table goes with the fields of its columns -/
theorem Outline.ofTable_goesWith {t : Table} (h : ∀ c ∈ t.columns, c.Regular) :
    (ofTable t).GoesWith (t.columns.map Column.member) := by
  have hnames : (ofTable t).interfaces.map (·.name) = t.columns.map (·.accessor) := by
    unfold ofTable
    rw [List.map_map]
    refine List.map_congr_left fun c hc => ?_
    exact (h c hc).accessor.symm
  constructor
  case fields => rfl
  case interfaces =>
    unfold ofTable
    rw [List.map_map]
    rfl
  case implemented =>
    unfold shownNames
    rw [hnames]
    rfl
  case extended =>
    unfold shownNames
    rw [hnames]
    rfl
  case noClause =>
    intro hnone
    unfold ofTable
    rw [List.map_eq_nil_iff.mp hnone]
    exact ⟨rfl, rfl⟩

/-- **The two artifacts of a table agree**, column by column: read back, the entity has a field for
each column, and the transfer objects have the same fields, with an interface of one getter each.
The rows with markers are set aside, or the markers are neither methods nor the end of an
interface. -/
theorem artifacts_agree {rules : Rules} {ddl : String} {t : Table}
    (h : Table.ofDdl rules ddl = .ok t) (htypes : ∀ s ∈ rules.types.targets, OneLine s)
    (hindent : OneLine rules.output.indent)
    (hmarkers : ∀ marker ∈ [rules.validation.stringMarker, rules.validation.otherMarker],
      OneLine marker) :
    entityFields rules.output.indent (rows (Entity.text rules t)) =
      t.columns.map (fun c => ⟨c.targetType, c.fieldName⟩) ∧
    ∃ o : Outline,
      readDto rules.output.indent rules.validation.enabled (rows (Dto.text rules t)) = some o ∧
      ((∀ marker ∈ [rules.validation.stringMarker, rules.validation.otherMarker],
          Noise rules.output.indent (Dto.nested rules.output.indent 2 ++ marker)) →
        readDto rules.output.indent false (rows (Dto.text rules t)) = some o) ∧
      o.GoesWith (entityFields rules.output.indent (rows (Entity.text rules t))) := by
  have hlegible := ofDdl_legible h htypes
  have hregular : ∀ c ∈ t.columns, c.Regular := fun c hc => regular_of_mem_columns h hc
  have hentity : entityFields rules.output.indent (rows (Entity.text rules t)) =
      t.columns.map Column.member := by
    unfold Entity.text
    rw [rows_ofLines (Entity.oneLine_lines hlegible hindent)]
    exact entityFields_lines _ hregular
  have hdto : rows (Dto.text rules t) = Dto.lines rules t :=
    rows_ofLines (oneLine_dto_lines hlegible hindent hmarkers)
  rw [hentity, hdto]
  exact ⟨rfl, Outline.ofTable t, readDto_lines (Or.inl rfl) hregular,
    fun hplain => readDto_lines (Or.inr ⟨rfl, hplain⟩) hregular, Outline.ofTable_goesWith hregular⟩

/-- a statement with two columns -/
def pairDdl : String := "CREATE TABLE T (\nCD_A NUMBER(3),\nNM_B CHAR(3)\n)"

/-- its table -/
def pairTable : Table where
  schema := "dbo"
  name := "T"
  typeName := "T"
  columns := [⟨"CD_A", "cdA", "CdA", "Integer", "@Min(0) @Max(999)", false⟩,
    ⟨"NM_B", "nmB", "NmB", "String", "@Size(max = 3)", false⟩]

theorem ofDdl_pairDdl (validation : ValidationRules) :
    Table.ofDdl { validation := validation } pairDdl = .ok pairTable := by
  show Table.ofDdl {} pairDdl = .ok pairTable
  decide +kernel

/-- the markers that the rules have of themselves declare nothing -/
theorem noise_default : ∀ marker ∈ [({} : ValidationRules).stringMarker,
    ({} : ValidationRules).otherMarker], Noise "    " (Dto.nested "    " 2 ++ marker) := by
  intro marker hmarker
  simp only [List.mem_cons, List.not_mem_nil, or_false] at hmarker
  rcases hmarker with rfl | rfl
  · exact ⟨by decide, by decide⟩
  · exact ⟨by decide, by decide⟩

theorem artifacts_agree_pair :
    entityFields "    " (rows (Entity.text {} pairTable)) =
      [⟨"Integer", "cdA"⟩, ⟨"String", "nmB"⟩] ∧
    ∃ o : Outline, readDto "    " false (rows (Dto.text {} pairTable)) = some o ∧
      o.GoesWith (entityFields "    " (rows (Entity.text {} pairTable))) := by
  obtain ⟨hentity, o, -, hplain, hgoes⟩ :=
    artifacts_agree (ofDdl_pairDdl {}) (by decide) (by decide) (by decide)
  exact ⟨hentity, o, hplain noise_default, hgoes⟩

/-- rules with a getter as a marker -/
def getterRules : Rules := { validation := { stringMarker := "String getX();" } }

/-- a statement whose column has an empty name in Java -/
def blankDdl : String := "CREATE TABLE T (\n_ NUMBER(3)\n)"

/-- its table -/
def blankTable : Table where
  schema := "dbo"
  name := "T"
  typeName := "T"
  columns := [⟨"_", "", "", "Integer", "@Min(0) @Max(999)", false⟩]

/-- a marker can declare a second getter, and a single interface without a name is in no clause -/
theorem artifacts_disagree :
    (Table.ofDdl getterRules pairDdl = .ok pairTable ∧
      ∃ o, readDto "    " false (rows (Dto.text getterRules pairTable)) = some o ∧
        o.interfaces.map (·.methods.length) = [1, 2]) ∧
    Table.ofDdl {} blankDdl = .ok blankTable ∧
      ∃ o, readDto "    " false (rows (Dto.text {} blankTable)) = some o ∧
        o.interfaces.map (·.name) = [""] ∧ o.implemented = [] ∧ o.extended = [] := by
  have hpair : Table.ofDdl getterRules pairDdl = .ok pairTable := ofDdl_pairDdl _
  have hblank : Table.ofDdl {} blankDdl = .ok blankTable := by decide +kernel
  refine ⟨⟨hpair, ?_⟩, hblank, ?_⟩
  · have hrows : rows (Dto.text getterRules pairTable) = Dto.lines getterRules pairTable :=
      rows_ofLines (oneLine_dto_lines (ofDdl_legible hpair (by decide)) (by decide) (by decide))
    have hread : (readDto "    " false (Dto.lines getterRules pairTable)).map
        (fun o => o.interfaces.map (·.methods.length)) = some [1, 2] := by decide +kernel
    rw [hrows]
    exact Option.map_eq_some_iff.mp hread
  · have hrows : rows (Dto.text {} blankTable) = Dto.lines {} blankTable :=
      rows_ofLines (oneLine_dto_lines (ofDdl_legible hblank (by decide)) (by decide) (by decide))
    have hregular : ∀ c ∈ blankTable.columns, c.Regular := fun c => regular_of_mem_columns hblank
    have hmarked : ReadsOver {} false := Or.inr ⟨rfl, noise_default⟩
    have hread := readDto_lines hmarked hregular
    rw [hrows]
    exact ⟨Outline.ofTable blankTable, hread, rfl, rfl, rfl⟩

end DdlToJava
