import DdlToJava.Proofs.Artifact.Dto
import DdlToJava.Proofs.Artifact.Entity
import Mathlib.Data.List.Chain

/-!
# Taking the combined text apart

The two artifacts of a table are delivered as one text with a ruled row between two blank rows.  A
ruled row can also come from the rules, for the row of a marker is the indent and the marker,
whatever they are.  But it never stands behind a blank row (`Unruled`): the marker of a getter comes
behind the head of its interface, and no other row of an artifact ends in an equals sign.

* `append_inj_of_isChain`   two chains are cut apart where the relation is broken;
* `unruled_entity`, `unruled_dto`
                            the rows of the two artifacts;
* `combined_cut_iff`        so the text can be cut at the separator in one place only.
-/

namespace DdlToJava

open Text Outline

/-- there is one place to cut two chains where the relation does not hold -/
theorem append_inj_of_isChain {α : Type} {R : α → α → Prop} {a b c d : List α}
    (ha : a.IsChain R) (hb : b.IsChain R) (h : a ++ b = c ++ d) {x y : α}
    (hx : c.getLast? = some x) (hy : d.head? = some y) (hxy : ¬ R x y) : a = c ∧ b = d := by
  -- with something between the two cuts, the break stands inside one of the chains
  rcases List.append_eq_append_iff.mp h with ⟨mid, rfl, rfl⟩ | ⟨mid, rfl, rfl⟩
  · by_cases hmid : mid = []
    · rw [hmid]
      exact ⟨(List.append_nil a).symm, rfl⟩
    · rw [List.getLast?_append_of_ne_nil _ hmid] at hx
      exact absurd ((List.isChain_append.mp hb).2.2 x hx y hy) hxy
  · by_cases hmid : mid = []
    · rw [hmid]
      exact ⟨List.append_nil c, rfl⟩
    · rw [List.head?_append_of_ne_nil _ hmid] at hy
      exact absurd ((List.isChain_append.mp ha).2.2 x hx y hy) hxy

namespace Artifact

/-! ## ruled rows -/

/-- the row between two artifacts -/
def ruledRow : String := String.ofList (List.replicate 30 '=')

theorem separator_eq : separator = "\n" ++ ofLines ["", ruledRow, ""] := by decide +kernel

theorem oneLine_ruledRow : OneLine ruledRow := by decide

/-- a ruled row does not stand behind a blank one -/
def Below (above row : String) : Prop := row = ruledRow → above ≠ ""

/-- no ruled row comes first or stands behind a blank row -/
def Unruled (rows : List String) : Prop := ("" :: rows).IsChain Below

theorem ne_ruledRow {row : String} (h : row.toList.getLast? ≠ some '=') : row ≠ ruledRow :=
  (ne_of_getLast? '=' (by decide) h).symm

/-- a row that ends like `back`, whatever comes in front of it -/
theorem append_ne_ruledRow (front : String) {back : String} (hne : back.toList ≠ [])
    (hlast : back.toList.getLast? ≠ some '=') : front ++ back ≠ ruledRow :=
  ne_ruledRow (getLast?_append_ne front hne hlast)

section
variable {row first : String} {rows a b : List String}

theorem Unruled.ne_of_head? (h : Unruled rows) (hrow : row ∈ rows.head?) : row ≠ ruledRow :=
  fun hruled => (List.isChain_cons.mp h).1 row hrow hruled rfl

/-- nor does it stand behind any other row, if it does not come first -/
theorem Unruled.cons (h : Unruled rows) (above : String) : (above :: rows).IsChain Below :=
  List.isChain_cons.mpr ⟨fun _ hrow hruled => absurd hruled (h.ne_of_head? hrow), h.tail⟩

theorem Unruled.append (ha : Unruled a) (hb : Unruled b) : Unruled (a ++ b) :=
  List.IsChain.append ha hb.tail fun _ _ _ hrow hruled => absurd hruled (hb.ne_of_head? hrow)

theorem unruled_of_forall (h : ∀ row ∈ rows, row ≠ ruledRow) : Unruled rows := by
  induction rows with
  | nil => exact List.isChain_singleton ""
  | cons r rs ih =>
    have hr := h r (List.mem_cons_self ..)
    refine List.isChain_cons_cons.mpr ⟨fun hruled => absurd hruled hr, ?_⟩
    exact (ih fun row hrow => h row (List.mem_cons_of_mem r hrow)).cons r

/-- behind a row that is not blank there can be any row -/
theorem Unruled.behind (hfirst : first ≠ ruledRow) (hblank : first ≠ "") (row : String)
    (h : Unruled rows) : Unruled (first :: row :: rows) :=
  List.isChain_cons_cons.mpr ⟨fun hruled => absurd hruled hfirst,
    List.isChain_cons_cons.mpr ⟨fun _ => hblank, h.cons row⟩⟩

end

/-! ## the rows of an entity -/

theorem unruled_entityFields (indent : String) (cs : List Column) :
    Unruled (Entity.fields indent cs) := by
  induction cs with
  | nil => exact unruled_of_forall nofun
  | cons c cs ih =>
    have hid : ∀ row ∈ (if c.isKey then [indent ++ "@Id"] else []), row ≠ ruledRow := by
      split
      · exact List.forall_mem_singleton.mpr (append_ne_ruledRow _ (by decide) (by decide))
      · exact nofun
    rw [Entity.fields_cons, Entity.fieldLines]
    refine Unruled.append (unruled_of_forall ?_) ih
    simp only [List.forall_mem_cons, List.forall_mem_append]
    refine ⟨by decide, hid, ?_, ?_, nofun⟩
    · exact append_ne_ruledRow _ (by decide) (by decide)
    · exact append_ne_ruledRow _ (by decide) (by decide)

theorem unruled_entity (indent : String) (t : Table) : Unruled (Entity.lines indent t) := by
  have hkey : ∀ row ∈ (if t.hasCompositeKey then [Entity.idClassRow t] else []),
      row ≠ ruledRow := by
    split
    · exact List.forall_mem_singleton.mpr (append_ne_ruledRow _ (by decide) (by decide))
    · exact nofun
  have hhead : ∀ row ∈ Entity.head indent t, row ≠ ruledRow := by
    rw [Entity.head_eq]
    simp only [List.forall_mem_cons, List.forall_mem_append]
    refine ⟨by decide, by decide, by decide, by decide, ?_, hkey, ?_, by decide, ?_, ?_, nofun⟩
    · exact append_ne_ruledRow _ (by decide) (by decide)
    · exact append_ne_ruledRow _ (by decide) (by decide)
    · exact append_ne_ruledRow _ (by decide) (by decide)
    · exact append_ne_ruledRow _ (by decide) (by decide)
  have hend : Unruled ["\x7d"] := unruled_of_forall (by decide)
  exact ((unruled_of_forall hhead).append (unruled_entityFields indent t.columns)).append hend

/-! ## the rows of the transfer objects -/

section
variable {rules : Rules} {t : Table} {c : Column}

/-- a marker stands behind the head of its interface -/
theorem unruled_interfaceLines (rules : Rules) (hc : IsConstraint c.constraint) :
    Unruled (Dto.interfaceLines rules c) := by
  obtain ⟨notes, hmarks, hnotes⟩ := exists_notes rules hc
  have hfirst : interfaceFront rules.output.indent ++ c.accessor ++ " \x7b" ≠ ruledRow :=
    append_ne_ruledRow _ (by decide) (by decide)
  have hblank : interfaceFront rules.output.indent ++ c.accessor ++ " \x7b" ≠ "" := fun h =>
    absurd (String.append_eq_empty_iff.mp h).2 (by decide)
  have hfirstRow : ∀ row ∈ [interfaceFront rules.output.indent ++ c.accessor ++ " \x7b"],
      row ≠ ruledRow := List.forall_mem_singleton.mpr hfirst
  have hnoteRows : ∀ row ∈ notes.map (Dto.nested rules.output.indent 2 ++ ·), row ≠ ruledRow := by
    intro row hrow
    obtain ⟨n, hn, rfl⟩ := List.mem_map.mp hrow
    apply ne_ruledRow
    rw [getLast?_append _ (hnotes n hn)]
    decide
  have hgetter : ∀ row ∈ [Dto.nested rules.output.indent 2 ++ c.targetType ++ " get" ++
      c.accessor ++ "();", interfaceEnd rules.output.indent], row ≠ ruledRow := by
    simp only [List.forall_mem_cons]
    refine ⟨?_, ?_, nofun⟩
    · exact append_ne_ruledRow _ (by decide) (by decide)
    · exact append_ne_ruledRow _ (by decide) (by decide)
  unfold Dto.interfaceLines
  rw [hmarks]
  cases rules.validation.enabled with
  | true =>
    exact Unruled.behind hfirst hblank _
      ((unruled_of_forall hnoteRows).append (unruled_of_forall hgetter))
  | false =>
    exact ((unruled_of_forall hfirstRow).append (unruled_of_forall hnoteRows)).append
      (unruled_of_forall hgetter)

theorem unruled_interfaces (rules : Rules) {cs : List Column} (h : ∀ c ∈ cs, c.Regular) :
    Unruled (Dto.interfaces rules cs) := by
  induction cs with
  | nil => exact unruled_of_forall nofun
  | cons c cs ih =>
    have hblank : Unruled [""] := unruled_of_forall (by decide)
    have hc := unruled_interfaceLines rules (h c (List.mem_cons_self ..)).constraint
    rw [Dto.interfaces_cons]
    exact (hblank.append hc).append (ih fun d hd => h d (List.mem_cons_of_mem c hd))

theorem unruled_dto (rules : Rules) (h : ∀ c ∈ t.columns, c.Regular) :
    Unruled (Dto.lines rules t) := by
  have hrequest : ∀ row ∈ Dto.requestLines rules.output.indent t, row ≠ ruledRow := by
    unfold Dto.requestLines Dto.requestField
    simp only [List.forall_mem_append, List.forall_mem_cons, List.forall_mem_map]
    refine ⟨⟨⟨?_, ?_, ?_, nofun⟩, fun c _ => ?_⟩, ?_, by decide, ?_, ?_, ?_, ?_, nofun⟩
    all_goals exact append_ne_ruledRow _ (by decide) (by decide)
  have hresponse : ∀ row ∈ Dto.responseLines rules.output.indent t, row ≠ ruledRow := by
    unfold Dto.responseLines
    simp only [List.forall_mem_cons]
    refine ⟨?_, ?_, ?_, nofun⟩
    all_goals exact append_ne_ruledRow _ (by decide) (by decide)
  have hhead : ∀ row ∈ ["/** JAVA DTO **/", "", "public enum " ++ t.typeName ++ "DTO \x7b;"],
      row ≠ ruledRow := by
    simp only [List.forall_mem_cons]
    exact ⟨by decide, by decide, append_ne_ruledRow _ (by decide) (by decide), nofun⟩
  have hblank : Unruled [""] := unruled_of_forall (by decide)
  have hend : Unruled ["\x7d"] := unruled_of_forall (by decide)
  exact ((((((unruled_of_forall hhead).append (unruled_interfaces rules h)).append hblank).append
    (unruled_of_forall hrequest)).append hblank).append (unruled_of_forall hresponse)).append hend

end

/-! ## the combined text -/

/-- the rows of the combined text, with the separator cut in front of its ruled row -/
theorem combined_eq_ofLines (rules : Rules) (t : Table) :
    combined (ofTable rules t) =
      ofLines ((Entity.lines rules.output.indent t ++ ["", ""]) ++
        (ruledRow :: "" :: Dto.lines rules t)) := by
  have hseparator : separator = ofLines ["", "", ruledRow, ""] := separator_eq
  rw [combined_ofTable, hseparator, Entity.text, Dto.text, ← ofLines_append, ← ofLines_append]
  simp only [List.append_assoc, List.cons_append, List.nil_append]

/-- a ruled row between two blank rows is the one that was put there -/
theorem Unruled.cut {a b above below : List String} {row : String} (ha : Unruled a) (hb : Unruled b)
    (h : (a ++ ["", ""]) ++ (ruledRow :: "" :: b) = above ++ row :: (["", ruledRow, ""] ++ below)) :
    above = a ∧ row = "" ∧ below = b := by
  have hblanks : Unruled ["", ""] := unruled_of_forall (by decide)
  have habove : (a ++ ["", ""]).IsChain Below := (ha.append hblanks).tail
  have hunder : (ruledRow :: "" :: b).IsChain Below :=
    List.isChain_cons_cons.mpr ⟨fun hruled => absurd hruled (by decide), hb⟩
  have hsplit : (a ++ ["", ""]) ++ (ruledRow :: "" :: b) =
      (above ++ [row, ""]) ++ (ruledRow :: "" :: below) := by
    rw [h, List.append_assoc]
    rfl
  obtain ⟨hfront, hback⟩ := append_inj_of_isChain habove hunder hsplit
    (List.getLast?_append_of_ne_nil _ (List.cons_ne_nil _ _)) rfl fun hbelow => hbelow rfl rfl
  obtain ⟨rfl, hrow⟩ := List.append_inj' hfront rfl
  injection hrow with hrow _
  injection hback with _ hback
  injection hback with _ hback
  exact ⟨rfl, hrow.symm, hback.symm⟩

/-- **The combined text can be taken apart again**: the separator stands in it in one place only,
and in front of it and behind it are the texts of the two artifacts. -/
theorem combined_cut_iff {rules : Rules} {ddl : String} {t : Table}
    (h : Table.ofDdl rules ddl = .ok t) (htypes : ∀ s ∈ rules.types.targets, OneLine s)
    (hindent : OneLine rules.output.indent)
    (hmarkers : ∀ marker ∈ [rules.validation.stringMarker, rules.validation.otherMarker],
      OneLine marker) (front back : String) :
    combined (ofTable rules t) = front ++ separator ++ back ↔
      front = (entity rules t).body ∧ back = (dto rules t).body := by
  have hlegible := ofDdl_legible h htypes
  constructor
  · intro hcut
    have hone : ∀ row ∈ (Entity.lines rules.output.indent t ++ ["", ""]) ++
        (ruledRow :: "" :: Dto.lines rules t), OneLine row := by
      simp only [List.forall_mem_append, List.forall_mem_cons]
      exact ⟨⟨Entity.oneLine_lines hlegible hindent, by decide, by decide, nofun⟩,
        oneLine_ruledRow, by decide, oneLine_dto_lines hlegible hindent hmarkers⟩
    rw [combined_eq_ofLines, separator_eq] at hcut
    obtain ⟨above, row, below, hrows, rfl, rfl⟩ := ofLines_eq_cut hone (by decide) hcut
    have hdto := unruled_dto rules fun c hc => regular_of_mem_columns h hc
    obtain ⟨rfl, rfl, rfl⟩ := (unruled_entity rules.output.indent t).cut hdto hrows
    rw [String.append_empty]
    exact ⟨rfl, rfl⟩
  · rintro ⟨rfl, rfl⟩
    exact combined_ofTable rules t

/-- rules whose markers and texts are ruled rows -/
def ruledRules : Rules where
  types := { string := { targetType := ruledRow } }
  validation := { stringMarker := ruledRow }
  output := { indent := "" }

/-- a statement with a text -/
def ruledDdl : String := "CREATE TABLE T (\nCD_A NUMBER(3),\nNM_B CHAR(3)\n)"

/-- its table -/
def ruledTable : Table where
  schema := "dbo"
  name := "T"
  typeName := "T"
  columns := [⟨"CD_A", "cdA", "CdA", "Integer", "@Min(0) @Max(999)", false⟩,
    ⟨"NM_B", "nmB", "NmB", ruledRow, "@Size(max = 3)", false⟩]

/-- a ruled row of the transfer objects is no separator -/
theorem combined_cut_iff_ruled :
    Table.ofDdl ruledRules ruledDdl = .ok ruledTable ∧
    ruledRow ∈ Dto.lines ruledRules ruledTable ∧
    ∀ front back, combined (ofTable ruledRules ruledTable) = front ++ separator ++ back ↔
      front = (entity ruledRules ruledTable).body ∧ back = (dto ruledRules ruledTable).body := by
  have hruled : Table.ofDdl ruledRules ruledDdl = .ok ruledTable := by decide +kernel
  refine ⟨hruled, by decide +kernel, ?_⟩
  exact combined_cut_iff hruled (by decide +kernel) (by decide) (by decide)

end Artifact

end DdlToJava
