import DdlToJava.Artifact.Entity
import DdlToJava.Proofs.Artifact.Legible

/-!
# The entity determines the table

An entity is read from the top.  Its rows differ from table to table only behind the indent, so
that two equal texts have equal rows whatever the indent is; and the rows of a key column, of a
composite key and of the end of the class differ from what else could stand in their place.

* `tableRow_inj`, `fieldRow_inj`  the rows that hold more than one text;
* `ofLines_fields_inj`            the fields of a class, column by column;
* `text_eq_iff`                   two entities are equal exactly if the tables agree in all that
                                  an entity shows.
-/

namespace DdlToJava

open Text

/-- the two columns have the same field in the entity -/
structure Column.SameField (c d : Column) : Prop where
  name : c.name = d.name
  targetType : c.targetType = d.targetType
  fieldName : c.fieldName = d.fieldName
  isKey : c.isKey = d.isKey

/-- the two tables agree in all that an entity shows -/
structure Table.SameEntity (t u : Table) : Prop where
  schema : t.schema = u.schema
  name : t.name = u.name
  typeName : t.typeName = u.typeName
  number : t.columns.length = u.columns.length
  columns : List.Forall₂ Column.SameField t.columns u.columns

namespace Entity

/-! ## rows -/

/-- the row that names the table -/
def tableRow (t : Table) : String :=
  "@Table(schema = \"" ++ t.schema ++ "\", name = \"" ++ t.name ++ "\")"

/-- the row of a composite key -/
def idClassRow (t : Table) : String := "@IdClass(" ++ t.typeName ++ "Id.class)"

/-- the row that opens the class -/
def classRow (t : Table) : String :=
  "public class " ++ t.typeName ++ " implements Serializable \x7b"

/-- the row that names a column, behind the indent -/
def columnRow (c : Column) : String := "@Column(name = \"" ++ c.name ++ "\")"

/-- the row of a field, behind the indent -/
def fieldRow (c : Column) : String := "private " ++ c.targetType ++ " " ++ c.fieldName ++ ";"

theorem fieldLines_eq (indent : String) (c : Column) :
    fieldLines indent c =
      (if c.isKey then [indent ++ "@Id"] else []) ++
        [indent ++ columnRow c, indent ++ fieldRow c] := by
  unfold fieldLines columnRow fieldRow
  simp only [String.append_assoc]

theorem head_eq (indent : String) (t : Table) :
    head indent t =
      "/** JAVA ENTITY **/" :: "" :: "@Data" :: "@Entity" :: tableRow t ::
        ((if t.hasCompositeKey then [idClassRow t] else []) ++
          [classRow t, "", indent ++ "@Serial",
            indent ++ "private static final long serialVersionUID = 1L;"]) := by
  unfold head tableRow idClassRow classRow
  simp only [List.cons_append, List.nil_append]

theorem tableRow_inj {t u : Table} (ht : '"' ∉ t.schema.toList) (hu : '"' ∉ u.schema.toList) :
    tableRow t = tableRow u ↔ t.schema = u.schema ∧ t.name = u.name := by
  have hrow (t : Table) : tableRow t = "@Table(schema = \"" ++
      (String.ofList (t.schema.toList ++ '"' :: (", name = \"" ++ t.name).toList) ++ "\")") := by
    unfold tableRow
    rw [← String.toList_inj]
    simp only [String.toList_append, String.toList_ofList, List.append_assoc]
    rfl
  rw [hrow, hrow, String.append_right_inj, String.append_left_inj, String.ofList_inj,
    append_sep_inj ht hu, String.toList_inj, String.toList_inj, String.append_right_inj]

theorem fieldRow_inj {c d : Column} (hc : ' ' ∉ c.fieldName.toList)
    (hd : ' ' ∉ d.fieldName.toList) :
    fieldRow c = fieldRow d ↔ c.targetType = d.targetType ∧ c.fieldName = d.fieldName := by
  have hrow (c : Column) : fieldRow c = "private " ++
      (String.ofList (c.targetType.toList ++ ' ' :: c.fieldName.toList) ++ ";") := by
    unfold fieldRow
    rw [← String.toList_inj]
    simp only [String.toList_append, String.toList_ofList, List.append_assoc]
    rfl
  rw [hrow, hrow, String.append_right_inj, String.append_left_inj, String.ofList_inj,
    append_last_sep_inj hc hd, String.toList_inj, String.toList_inj]

theorem columnRow_inj {c d : Column} : columnRow c = columnRow d ↔ c.name = d.name := by
  unfold columnRow
  rw [String.append_left_inj, String.append_right_inj]

theorem columnRow_ne_id (c : Column) : columnRow c ≠ "@Id" := by
  unfold columnRow
  intro h
  have hchar := congrArg (fun s => s.toList[1]?) h
  simp at hchar

theorem classRow_ne_idClassRow (t u : Table) : classRow t ≠ idClassRow u := by
  unfold classRow idClassRow
  intro h
  have hchar := congrArg (fun s => s.toList[0]?) h
  simp at hchar

section
variable {c d : Column} {t u : Table}

theorem oneLine_columnRow (h : c.Legible) : OneLine (columnRow c) :=
  (OneLine.append (by decide) h.name).append (by decide)

theorem oneLine_fieldRow (h : c.Legible) : OneLine (fieldRow c) :=
  (((OneLine.append (by decide) h.targetType).append (by decide)).append h.field).append (by decide)

theorem oneLine_tableRow (h : t.Legible) : OneLine (tableRow t) :=
  (((OneLine.append (by decide) h.schemaLine).append (by decide)).append h.name).append (by decide)

theorem oneLine_idClassRow (h : t.Legible) : OneLine (idClassRow t) :=
  (OneLine.append (by decide) h.typeName).append (by decide)

theorem oneLine_classRow (h : t.Legible) : OneLine (classRow t) :=
  (OneLine.append (by decide) h.typeName).append (by decide)

/-- no row of an entity has a line feed -/
theorem oneLine_lines {indent : String} (h : t.Legible) (hindent : OneLine indent) :
    ∀ row ∈ lines indent t, OneLine row := by
  have hfields : ∀ row ∈ fields indent t.columns, OneLine row := by
    unfold fields
    intro row hrow
    obtain ⟨c, hc, hrow⟩ := List.mem_flatMap.mp hrow
    have hc := h.column hc
    rw [fieldLines_eq] at hrow
    rcases List.mem_cons.mp hrow with rfl | hrow
    · decide
    · rcases List.mem_append.mp hrow with hrow | hrow
      · split at hrow
        · rw [List.mem_singleton.mp hrow]
          exact hindent.append (by decide)
        · cases hrow
      · simp only [List.mem_cons, List.not_mem_nil, or_false] at hrow
        rcases hrow with rfl | rfl
        · exact hindent.append (oneLine_columnRow hc)
        · exact hindent.append (oneLine_fieldRow hc)
  have hkey : ∀ row ∈ (if t.hasCompositeKey then [idClassRow t] else []), OneLine row := by
    split
    · intro row hrow
      rw [List.mem_singleton.mp hrow]
      exact oneLine_idClassRow h
    · exact nofun
  unfold lines
  rw [head_eq]
  simp only [List.forall_mem_append, List.forall_mem_cons]
  exact ⟨⟨⟨by decide, by decide, by decide, by decide, oneLine_tableRow h, hkey,
    oneLine_classRow h, by decide, hindent.append (by decide), hindent.append (by decide),
    nofun⟩, hfields⟩, by decide, nofun⟩

/-! ## fields -/

/-- the rows of two fields at the front of two texts -/
theorem ofLines_fieldLines_inj (indent : String) (hc : c.Legible) (hd : d.Legible)
    {ls ls' : List String} :
    ofLines (fieldLines indent c ++ ls) = ofLines (fieldLines indent d ++ ls') ↔
      c.SameField d ∧ ofLines ls = ofLines ls' := by
  have hrows : ofLines ((indent ++ columnRow c) :: (indent ++ fieldRow c) :: ls) =
      ofLines ((indent ++ columnRow d) :: (indent ++ fieldRow d) :: ls') ↔
        c.name = d.name ∧ (c.targetType = d.targetType ∧ c.fieldName = d.fieldName) ∧
          ofLines ls = ofLines ls' := by
    rw [ofLines_row_inj (oneLine_columnRow hc) (oneLine_columnRow hd), columnRow_inj,
      ofLines_row_inj (oneLine_fieldRow hc) (oneLine_fieldRow hd),
      fieldRow_inj hc.fieldName hd.fieldName]
  have hparts : c.SameField d ↔ (c.name = d.name ∧ c.targetType = d.targetType ∧
      c.fieldName = d.fieldName) ∧ c.isKey = d.isKey :=
    ⟨fun h => ⟨⟨h.name, h.targetType, h.fieldName⟩, h.isKey⟩,
      fun ⟨⟨hname, htype, hfield⟩, hkey⟩ => ⟨hname, htype, hfield, hkey⟩⟩
  have hid : OneLine "@Id" := by decide
  rw [fieldLines_eq, fieldLines_eq, hparts]
  cases hkey : c.isKey with
  | true =>
    cases hkey' : d.isKey with
    | true =>
      show ofLines ((indent ++ "@Id") :: _) = ofLines ((indent ++ "@Id") :: _) ↔ _
      rw [ofLines_cons_inj]
      exact hrows.trans (by simp only [and_true, and_assoc])
    | false =>
      -- the mark of a key stands where the other column is named
      show ofLines ((indent ++ "@Id") :: _) = ofLines ((indent ++ columnRow d) :: _) ↔ _
      rw [ofLines_row_inj hid (oneLine_columnRow hd)]
      exact iff_of_false (fun h => columnRow_ne_id d h.1.symm) fun h => nomatch h.1.2
  | false =>
    cases hkey' : d.isKey with
    | true =>
      show ofLines ((indent ++ columnRow c) :: _) = ofLines ((indent ++ "@Id") :: _) ↔ _
      rw [ofLines_row_inj (oneLine_columnRow hc) hid]
      exact iff_of_false (fun h => columnRow_ne_id c h.1) fun h => nomatch h.1.2
    | false => exact hrows.trans (by simp only [and_true, and_assoc])

/-- the fields of a class, up to its end -/
theorem ofLines_fields_inj (indent : String) {cs ds : List Column} (hcs : ∀ c ∈ cs, c.Legible)
    (hds : ∀ d ∈ ds, d.Legible) :
    ofLines (fields indent cs ++ ["\x7d"]) = ofLines (fields indent ds ++ ["\x7d"]) ↔
      List.Forall₂ Column.SameField cs ds := by
  induction cs generalizing ds with
  | nil =>
    cases ds with
    | nil => exact iff_of_true rfl List.Forall₂.nil
    | cons d ds =>
      rw [fields_cons, fields_nil]
      show ofLines ["\x7d"] = ofLines ("" :: _) ↔ _
      rw [ofLines_bare_inj (by decide) (by decide)]
      exact iff_of_false (fun h => absurd h.1 (by decide)) fun h => nomatch h
  | cons c cs ih =>
    cases ds with
    | nil =>
      rw [fields_cons, fields_nil]
      show ofLines ("" :: _) = ofLines ["\x7d"] ↔ _
      rw [ofLines_bare_inj (by decide) (by decide)]
      exact iff_of_false (fun h => absurd h.1 (by decide)) fun h => nomatch h
    | cons d ds =>
      have hc := hcs c (List.mem_cons_self ..)
      have hd := hds d (List.mem_cons_self ..)
      have hrest := ih (fun x hx => hcs x (List.mem_cons_of_mem _ hx))
        (fun x hx => hds x (List.mem_cons_of_mem _ hx))
      rw [fields_cons, fields_cons, List.forall₂_cons, ← hrest]
      show ofLines ("" :: (fieldLines indent c ++ fields indent cs ++ _)) =
        ofLines ("" :: (fieldLines indent d ++ fields indent ds ++ _)) ↔ _
      rw [ofLines_cons_inj, List.append_assoc, List.append_assoc,
        ofLines_fieldLines_inj indent hc hd]

/-! ## the whole -/

/-- the rows from the composite key to the class -/
theorem ofLines_class_inj (ht : t.Legible) (hu : u.Legible) {ls ls' : List String} :
    ofLines ((if t.hasCompositeKey then [idClassRow t] else []) ++ classRow t :: ls) =
      ofLines ((if u.hasCompositeKey then [idClassRow u] else []) ++ classRow u :: ls') ↔
        t.hasCompositeKey = u.hasCompositeKey ∧ t.typeName = u.typeName ∧
          ofLines ls = ofLines ls' := by
  have hclass : ofLines (classRow t :: ls) = ofLines (classRow u :: ls') ↔
      t.typeName = u.typeName ∧ ofLines ls = ofLines ls' := by
    rw [ofLines_bare_inj (oneLine_classRow ht) (oneLine_classRow hu)]
    unfold classRow
    rw [String.append_left_inj, String.append_right_inj]
  have hidClass : idClassRow t = idClassRow u ↔ t.typeName = u.typeName := by
    unfold idClassRow
    rw [String.append_left_inj, String.append_right_inj]
  cases hkey : t.hasCompositeKey with
  | true =>
    cases hkey' : u.hasCompositeKey with
    | true =>
      show ofLines (idClassRow t :: classRow t :: ls) =
        ofLines (idClassRow u :: classRow u :: ls') ↔ _
      rw [ofLines_bare_inj (oneLine_idClassRow ht) (oneLine_idClassRow hu), hidClass, hclass]
      simp only [true_and, and_self_left]
    | false =>
      show ofLines (idClassRow t :: _) = ofLines (classRow u :: ls') ↔ _
      rw [ofLines_bare_inj (oneLine_idClassRow ht) (oneLine_classRow hu)]
      exact iff_of_false (fun h => classRow_ne_idClassRow u t h.1.symm) fun h => nomatch h.1
  | false =>
    cases hkey' : u.hasCompositeKey with
    | true =>
      show ofLines (classRow t :: ls) = ofLines (idClassRow u :: _) ↔ _
      rw [ofLines_bare_inj (oneLine_classRow ht) (oneLine_idClassRow hu)]
      exact iff_of_false (fun h => classRow_ne_idClassRow t u h.1) fun h => nomatch h.1
    | false =>
      show ofLines (classRow t :: ls) = ofLines (classRow u :: ls') ↔ _
      rw [hclass]
      tauto

theorem hasCompositeKey_congr (h : List.Forall₂ Column.SameField t.columns u.columns) :
    t.hasCompositeKey = u.hasCompositeKey := by
  have hkeys {cs ds : List Column} (h : List.Forall₂ Column.SameField cs ds) :
      (cs.filter (·.isKey)).length = (ds.filter (·.isKey)).length := by
    induction h with
    | nil => rfl
    | cons hcd _ ih =>
      rw [List.filter_cons, List.filter_cons, hcd.isKey]
      split
      · exact congrArg (· + 1) ih
      · exact ih
  unfold Table.hasCompositeKey Table.keyColumns
  rw [hkeys h]

/-- two entities are equal exactly if the tables agree in all that an entity shows -/
theorem text_eq_iff (rules : Rules) (ht : t.Legible) (hu : u.Legible) :
    text rules t = text rules u ↔ t.SameEntity u := by
  have hlines (t : Table) : lines rules.output.indent t =
      "/** JAVA ENTITY **/" :: "" :: "@Data" :: "@Entity" :: tableRow t ::
        ((if t.hasCompositeKey then [idClassRow t] else []) ++ classRow t :: "" ::
          (rules.output.indent ++ "@Serial") ::
          (rules.output.indent ++ "private static final long serialVersionUID = 1L;") ::
          (fields rules.output.indent t.columns ++ ["\x7d"])) := by
    unfold lines
    rw [head_eq]
    simp only [List.cons_append, List.nil_append, List.append_assoc]
  unfold text
  rw [hlines, hlines, ofLines_cons_inj, ofLines_cons_inj, ofLines_cons_inj, ofLines_cons_inj,
    ofLines_bare_inj (oneLine_tableRow ht) (oneLine_tableRow hu), tableRow_inj ht.schema hu.schema,
    ofLines_class_inj ht hu, ofLines_cons_inj, ofLines_cons_inj, ofLines_cons_inj,
    ofLines_fields_inj _ (fun c hc => ht.column hc) fun c hc => hu.column hc]
  constructor
  · rintro ⟨⟨hschema, hname⟩, -, htype, hcolumns⟩
    exact ⟨hschema, hname, htype, hcolumns.length_eq, hcolumns⟩
  · intro h
    exact ⟨⟨h.schema, h.name⟩, hasCompositeKey_congr h.columns, h.typeName, h.columns⟩

end

end Entity

/-- **The entity determines the table**, whatever the indent is: two entities are equal exactly if
the tables agree in their names and, column by column, in the name, the Java type, the field and
the key.  Tables of statements are legible. -/
theorem entity_determines_table :
    (∀ (rules : Rules) {t u : Table}, t.Legible → u.Legible →
      (Entity.text rules t = Entity.text rules u ↔ t.SameEntity u)) ∧
    ∀ {rules : Rules} {ddl : String} {t : Table}, Table.ofDdl rules ddl = .ok t →
      (∀ s ∈ rules.types.targets, OneLine s) → t.Legible :=
  ⟨fun rules _ _ ht hu => Entity.text_eq_iff rules ht hu, fun h htypes => ofDdl_legible h htypes⟩

/-- a statement with a composite key -/
def pairKeyed : String :=
  "CREATE TABLE V.TB_ITEM (\nNR_ITEM NUMBER(3),\nNR_PEDIDO NUMBER(10),\nNR_ITEM CHAR(2),\n" ++
    "PRIMARY KEY (NR_ITEM, NR_PEDIDO)\n)"

def pairKeyedTable : Table where
  schema := "V"
  name := "TB_ITEM"
  typeName := "Item"
  columns := [⟨"NR_ITEM", "nrItem", "NrItem", "Integer", "@Min(0) @Max(999)", true⟩,
    ⟨"NR_PEDIDO", "nrPedido", "NrPedido", "Long", "@Min(0) @Max(9999999999L)", true⟩]
  duplicates := ["NR_ITEM"]

/-- the same without what an entity does not show -/
def pairKeyedShown : Table where
  schema := "V"
  name := "TB_ITEM"
  typeName := "Item"
  columns := [⟨"NR_ITEM", "nrItem", "", "Integer", "", true⟩,
    ⟨"NR_PEDIDO", "nrPedido", "", "Long", "", true⟩]

/-- rules with a line feed in the indent -/
def brokenIndent : Rules := { output := { indent := "\n@Id" } }

theorem entity_determines_table_pairKeyed :
    Table.ofDdl {} pairKeyed = .ok pairKeyedTable ∧ pairKeyedShown.Legible ∧
      Entity.text brokenIndent pairKeyedTable = Entity.text brokenIndent pairKeyedShown ∧
      pairKeyedTable.SameEntity pairKeyedShown := by
  have hddl : Table.ofDdl {} pairKeyed = .ok pairKeyedTable := by decide +kernel
  have hlegible : pairKeyedTable.Legible := entity_determines_table.2 hddl (by decide)
  have hshown : pairKeyedShown.Legible := ⟨by decide, by decide, by decide⟩
  have htext : Entity.text brokenIndent pairKeyedTable =
      Entity.text brokenIndent pairKeyedShown := rfl
  exact ⟨hddl, hshown, htext, (entity_determines_table.1 brokenIndent hlegible hshown).mp htext⟩

end DdlToJava
