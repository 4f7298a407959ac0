import DdlToJava.Proofs.Ddl.PrintedKey
import DdlToJava.Proofs.Ddl.Faults

/-!
# Reading undoes printing

A declaration that is printed in one of the layouts and read again gives a table that `Reflects` it:
the same name, and the columns in their order, each with the Java name and type that the rules give
it and with its key flag (`ofDdl_print`).  Nothing is lost, repeated or refused.
-/

namespace DdlToJava.Ddl

open Text Body

/-! ## the table of a declaration -/

/-- the column `col` is what the rules make of the declared column `c` -/
structure ReflectsColumn (rules : Rules) (d : Declaration) (c : ColumnDecl) (col : Column) :
    Prop where
  name : col.name = c.name.text
  fieldName : rules.naming.fieldName c.name.text = .ok col.fieldName
  accessor : col.accessor = accessorName col.fieldName
  type : rules.types.javaType c.typeName.text c.size.precision c.size.scale =
    .ok ⟨col.targetType, col.constraint⟩
  isKey : col.isKey = d.isKey c

/-- the table `t` is what the rules make of the declaration -/
structure Reflects (rules : Rules) (d : Declaration) (t : Table) : Prop where
  schema : t.schema = d.schema.elim defaultSchema Name.text
  name : t.name = d.table.text
  typeName : rules.naming.typeName d.table.text = .ok t.typeName
  columns : List.Forall₂ (ReflectsColumn rules d) d.columns t.columns
  duplicates : t.duplicates = []

/-! ## types -/

/-- a size below the limit is never refused -/
theorem javaType_ok (types : TypeRules) (typeName : String) {p : Int} (s : Int)
    (hp : p < JavaType.lengthLimit) : ∃ ty, types.javaType typeName p s = .ok ty := by
  rw [exists_ok_iff]
  intro e he
  have hlarge := (javaType_eq_error.mp he).2.2
  omega

theorem Size.precision_lt (s : Size) : (s.precision : Int) < JavaType.lengthLimit := by
  have hlt (p : SizeNumber) : ((p : Nat) : Int) < JavaType.lengthLimit := Int.ofNat_lt.mpr p.isLt
  cases s with
  | none => decide
  | plain p => exact hlt p
  | scaled p s => exact hlt p
  | bytes p => exact hlt p
  | chars p => exact hlt p

/-! ## columns -/

section
variable {d : Declaration}

theorem isKeyLine_line {c : ColumnDecl} {l : ColumnLine} (h : IsLineOf c l) :
    isKeyLine d.keyNames l = d.isKey c := by
  obtain ⟨z, hz, rfl⟩ := h
  show (d.keyNames.contains c.name.text || hasKeyMark false (c.mark.print ++ z)) = _
  rw [c.mark.hasKeyMark_print hz]
  rfl

theorem exists_column (rules : Rules) {c : ColumnDecl} {l : ColumnLine} (h : IsLineOf c l) :
    ∃ col, Declares rules l (isKeyLine d.keyNames l) col ∧ ReflectsColumn rules d c col := by
  have hkey := isKeyLine_line (d := d) h
  obtain ⟨z, _, rfl⟩ := h
  obtain ⟨field, hfield⟩ := fieldName_ok rules.naming (Name.text_ne_empty (n := c.name))
  obtain ⟨ty, hty⟩ := javaType_ok rules.types c.typeName.text c.size.scale c.size.precision_lt
  obtain ⟨hprecision, hscale⟩ := c.size.readSize_text
  refine ⟨⟨c.name.text, field, accessorName field, ty.name, ty.constraint, d.isKey c⟩, ?_, ?_⟩
  · exact ⟨rfl, hfield, rfl, ⟨_, _, hprecision, hscale, hty⟩, hkey.symm⟩
  · exact ⟨rfl, hfield, rfl, hty, rfl⟩

theorem exists_columns (rules : Rules) {cs : List ColumnDecl} {ls : List ColumnLine}
    (h : List.Forall₂ IsLineOf cs ls) :
    ∃ cols, List.Forall₂ (fun l col => Declares rules l (isKeyLine d.keyNames l) col) ls cols ∧
      List.Forall₂ (ReflectsColumn rules d) cs cols := by
  induction h with
  | nil => exact ⟨[], List.Forall₂.nil, List.Forall₂.nil⟩
  | cons hl _ ih =>
    obtain ⟨col, hdeclares, hreflects⟩ := exists_column rules (d := d) hl
    obtain ⟨cols, hs, hr⟩ := ih
    exact ⟨col :: cols, List.Forall₂.cons hdeclares hs, List.Forall₂.cons hreflects hr⟩

theorem names_of_lines {cs : List ColumnDecl} {ls : List ColumnLine}
    (h : List.Forall₂ IsLineOf cs ls) : ls.map (·.name) = cs.map (·.name.text) := by
  induction h with
  | nil => rfl
  | cons hl _ ih =>
    obtain ⟨z, _, rfl⟩ := hl
    exact congrArg _ ih

end

/-! ## statements -/

/-- **Reading undoes printing**, in every layout and under all rules. -/
theorem ofDdl_print (rules : Rules) (layout : Layout) (indent : Nat) (d : Declaration) :
    ∃ t, Table.ofDdl rules (d.print layout indent) = .ok t ∧ Reflects rules d t := by
  have hlines := d.columnLines_print layout indent
  have hname := d.ofText_print layout indent
  -- the names are different, so every line is kept
  have hsplit : splitRepeated [] (columnLines (unquoted (d.print layout indent))) =
      (columnLines (unquoted (d.print layout indent)), []) := by
    refine splitRepeated_of_nodup ?_ fun l _ h => nomatch h
    rw [names_of_lines hlines]
    exact d.columns_nodup
  obtain ⟨cols, hdeclares, hreflects⟩ := exists_columns rules (d := d) hlines
  obtain ⟨type, htype⟩ := typeName_ok rules.naming (Name.text_ne_empty (n := d.table))
  refine ⟨⟨d.schema.elim defaultSchema Name.text, d.table.text, type, cols, []⟩, ?_,
    ⟨rfl, rfl, htype, hreflects, rfl⟩⟩
  refine ofDdl_eq_ok.mpr ⟨by rw [hname], by rw [hname], htype, ?_, ?_⟩
  · unfold keptLines
    rw [hsplit, tableKey_print]
    exact hdeclares
  · unfold repeatedNames
    rw [hsplit]

end DdlToJava.Ddl
