import DdlToJava.Proofs.Artifact.Legible
import DdlToJava.Proofs.Artifact.Outline

/-!
# Reading the transfer objects

The transfer objects of a table are read row by row: every column has an interface, the request
class has the fields, and both clauses name the interfaces.

* `clause?_clause`     the names in a clause;
* `scan_interfaces`    the interfaces of columns are read one by one;
* `readDto_lines`      the outline of the transfer objects;
* `oneLine_dto_lines`  their rows have no line feed, so they can be cut out of the text.

A marker of the rules is written as it is, so a row with one is no part of the outline
(`ReadsOver`).
-/

namespace DdlToJava

open Text Outline

/-- what the writers rely on in a column -/
structure Column.Regular (c : Column) : Prop where
  accessor : c.accessor = accessorName c.fieldName
  comma : ',' ∉ c.accessor.toList
  space : ' ' ∉ c.accessor.toList
  fieldName : ' ' ∉ c.fieldName.toList
  constraint : IsConstraint c.constraint

/-- the columns of a declared table are regular -/
theorem regular_of_mem_columns {rules : Rules} {ddl : String} {t : Table}
    (h : Table.ofDdl rules ddl = .ok t) {c : Column} (hc : c ∈ t.columns) : c.Regular := by
  obtain ⟨l, isKey, -, hdecl⟩ := exists_line_of_mem_columns h hc
  obtain ⟨-, hfield, hspace⟩ := lacks_of_mem_columns (k := ' ') h hc (by decide) (by decide)
  obtain ⟨-, -, hcomma⟩ := lacks_of_mem_columns (k := ',') h hc (by decide) (by decide)
  exact ⟨hdecl.accessor, hcomma, hspace, hfield, (type_of_mem_columns h hc).2⟩

/-- the field of a column -/
def Column.member (c : Column) : Member := ⟨c.targetType, c.fieldName⟩

/-- the accessor that a field has by convention -/
def Outline.Member.getter (f : Member) : Member := ⟨f.type, "get" ++ accessorName f.name⟩

/-- the interface that a field implements -/
def Outline.Member.interface (f : Member) : Interface := ⟨accessorName f.name, [f.getter]⟩

namespace Outline

/-! ## clauses -/

theorem intercalate_eq_empty {names : List String} :
    String.intercalate ", " names = "" ↔ names = [] ∨ names = [""] := by
  rw [← String.toList_inj, String.toList_intercalate]
  match names with
  | [] => exact iff_of_true rfl (Or.inl rfl)
  | [n] =>
    rw [List.map_cons, List.map_nil, List.intercalate_singleton, String.toList_inj]
    simp
  | n :: m :: ns =>
    rw [List.map_cons, List.map_cons, List.intercalate_cons_cons]
    simp

/-- the names in a clause are those of the interfaces; a clause that would be empty is left out -/
theorem clause?_clause (front word back : String) {t : Table} (h : ∀ c ∈ t.columns, c.Regular) :
    clause? front word back (front ++ Dto.clause word t ++ back) =
      some (if t.columns.map (·.accessor) = [""] then [] else t.columns.map (·.accessor)) := by
  have hnames : ∀ n ∈ t.columns.map (·.accessor), ',' ∉ n.toList ∧ ' ' ∉ n.toList := by
    intro n hn
    obtain ⟨c, hc, rfl⟩ := List.mem_map.mp hn
    exact ⟨(h c hc).comma, (h c hc).space⟩
  unfold clause?
  rw [between?_append, Option.bind_some]
  unfold Dto.clause
  generalize t.columns.map (·.accessor) = names at hnames
  split
  · next hempty =>
    rw [if_pos rfl]
    rcases intercalate_eq_empty.mp hempty with rfl | rfl
    · rfl
    · rfl
  · next hne =>
    have hlong : ¬(names = [] ∨ names = [""]) := fun h => hne (intercalate_eq_empty.mpr h)
    obtain ⟨hnil, hsingle⟩ := not_or.mp hlong
    have hclause : " " ++ word ++ " " ++ String.intercalate ", " names ≠ "" := by
      intro heq
      have hlists := congrArg String.toList heq
      rw [String.toList_append, String.toList_append, String.toList_append] at hlists
      cases hlists
    have hbetween : between? (" " ++ word ++ " ") ""
        (" " ++ word ++ " " ++ String.intercalate ", " names) =
          some (String.intercalate ", " names) := by
      rw [between?_eq_some, String.append_empty]
    rw [if_neg hclause, hbetween, if_neg hsingle, Option.map_some, listed_intercalate hnil hnames]

/-! ## interfaces -/

/-- a row that is neither a method nor the end of an interface -/
def Noise (indent row : String) : Prop :=
  row ≠ interfaceEnd indent ∧ method? (Dto.nested indent 2) row = none

section
variable {rules : Rules} {indent row : String} {rows rest notes : List String} {marked : Bool}
  {is : List Interface} {c : Column}

theorem noise_of_getLast? (h : row.toList.getLast? = some ')') : Noise indent row := by
  constructor
  · exact ne_of_getLast? ')' h (getLast?_append_ne _ (by decide) (by decide))
  · exact method?_eq_none (by rw [h]; decide)

theorem scan_noise (h : Noise indent row) (rows : List String) :
    scan indent marked .body (row :: rows) = scan indent marked .body rows := by
  rw [scan, if_neg h.1, h.2]
  exact Option.map_id'

theorem scan_notes (h : ∀ row ∈ notes, Noise indent row) (rows : List String) :
    scan indent marked .body (notes ++ rows) = scan indent marked .body rows := by
  induction notes with
  | nil => rfl
  | cons n ns ih =>
    rw [List.cons_append, scan_noise (h n (List.mem_cons_self ..))]
    exact ih fun row hrow => h row (List.mem_cons_of_mem _ hrow)

theorem scan_getter (hspace : ' ' ∉ c.accessor.toList)
    (h : scan indent marked .gap rows = some ⟨[], is, rest⟩) :
    scan indent marked .body
        ((Dto.nested indent 2 ++ c.targetType ++ " get" ++ c.accessor ++ "();") ::
          interfaceEnd indent :: rows) =
      some ⟨[⟨c.targetType, "get" ++ c.accessor⟩], is, rest⟩ := by
  have hgetter : (Dto.nested indent 2 ++ c.targetType ++ " get" ++ c.accessor ++ "();") ≠
      interfaceEnd indent :=
    ne_of_getLast? ';' (getLast?_append _ (by decide))
      (getLast?_append_ne _ (by decide) (by decide))
  rw [scan, if_neg hgetter, scan, if_pos rfl, h, method?_row _ _ hspace]
  rfl

/-- the marks on a getter are a marker, if there is one, and notes that are no members -/
theorem exists_notes (rules : Rules) {c : Column} (hc : IsConstraint c.constraint) :
    ∃ notes, Dto.getterMarks rules c =
        (if rules.validation.enabled then [Dto.requiredMark rules c] else []) ++ notes ∧
      ∀ n ∈ notes, n.toList.getLast? = some ')' := by
  have hconstraint : ∀ n ∈ (if c.constraint = "" then [] else [c.constraint]),
      n.toList.getLast? = some ')' := by
    split
    · exact nofun
    · next hne =>
      intro n hn
      rw [List.mem_singleton.mp hn]
      exact hc.closed hne
  have hstub : ∀ n ∈ (if rules.validation.schemaNote then [Dto.schemaStub] else []),
      n.toList.getLast? = some ')' := by
    split
    · intro n hn
      rw [List.mem_singleton.mp hn]
      decide
    · exact nofun
  unfold Dto.getterMarks
  cases rules.validation.enabled with
  | true =>
    refine ⟨_, (List.append_assoc [_] _ _), fun n hn => ?_⟩
    rcases List.mem_append.mp hn with hn | hn
    · exact hconstraint n hn
    · exact hstub n hn
  | false => exact ⟨_, rfl, hstub⟩

/-- The rows with markers do not show in the outline: they are set aside, or the markers themselves
are neither methods nor the end of an interface. -/
def ReadsOver (rules : Rules) (marked : Bool) : Prop :=
  marked = rules.validation.enabled ∨
    marked = false ∧ ∀ marker ∈ [rules.validation.stringMarker, rules.validation.otherMarker],
      Noise rules.output.indent (Dto.nested rules.output.indent 2 ++ marker)

theorem requiredMark_mem (rules : Rules) (c : Column) :
    Dto.requiredMark rules c ∈ [rules.validation.stringMarker, rules.validation.otherMarker] := by
  unfold Dto.requiredMark
  split
  · exact List.mem_cons_self ..
  · exact List.mem_cons_of_mem _ (List.mem_cons_self ..)

/-- what stands between the head of an interface and its getter is read over -/
theorem scan_marks (hmarked : ReadsOver rules marked) (hc : IsConstraint c.constraint)
    (rows : List String) :
    scan rules.output.indent marked (if marked then .marker else .body)
        ((Dto.getterMarks rules c).map (Dto.nested rules.output.indent 2 ++ ·) ++ rows) =
      scan rules.output.indent marked .body rows := by
  obtain ⟨notes, hmarks, hnotes⟩ := exists_notes rules hc
  have hnoise : ∀ row ∈ notes.map (Dto.nested rules.output.indent 2 ++ ·),
      Noise rules.output.indent row := by
    intro row hrow
    obtain ⟨n, hn, rfl⟩ := List.mem_map.mp hrow
    exact noise_of_getLast? (getLast?_append _ (hnotes n hn))
  rw [hmarks, List.map_append, List.append_assoc]
  rcases hmarked with rfl | ⟨rfl, hplain⟩
  · -- the marker is set aside by its place, whatever it says
    cases rules.validation.enabled with
    | true =>
      show scan _ true .marker (_ :: (List.map _ notes ++ rows)) = _
      rw [scan, scan_notes hnoise]
    | false => exact scan_notes hnoise rows
  · rw [if_neg (by decide)]
    cases rules.validation.enabled with
    | true =>
      show scan _ false .body (_ :: (List.map _ notes ++ rows)) = _
      rw [scan_noise (hplain _ (requiredMark_mem rules c)), scan_notes hnoise]
    | false => exact scan_notes hnoise rows

/-- the interface of a column at the front of rows -/
theorem scan_interface (hmarked : ReadsOver rules marked) (hc : c.Regular)
    (h : scan rules.output.indent marked .gap rows = some ⟨[], is, rest⟩) :
    scan rules.output.indent marked .gap ("" :: Dto.interfaceLines rules c ++ rows) =
      some ⟨[], c.member.interface :: is, rest⟩ := by
  have hrows : "" :: Dto.interfaceLines rules c ++ rows =
      "" :: (interfaceFront rules.output.indent ++ c.accessor ++ " \x7b") ::
        ((Dto.getterMarks rules c).map (Dto.nested rules.output.indent 2 ++ ·) ++
          ((Dto.nested rules.output.indent 2 ++ c.targetType ++ " get" ++ c.accessor ++ "();") ::
            interfaceEnd rules.output.indent :: rows)) := by
    unfold Dto.interfaceLines interfaceFront interfaceEnd
    simp only [List.cons_append, List.nil_append, List.append_assoc]
  rw [hrows, scan, if_pos rfl, scan, between?_append]
  dsimp only
  rw [scan_marks hmarked hc.constraint, scan_getter hc.space h, Option.map_some]
  unfold Member.interface Member.getter Column.member
  rw [← hc.accessor]

/-- **the interfaces of columns are read one by one** -/
theorem scan_interfaces (hmarked : ReadsOver rules marked) {cs : List Column}
    (hcs : ∀ c ∈ cs, c.Regular)
    (h : scan rules.output.indent marked .gap rows = some ⟨[], [], rest⟩) :
    scan rules.output.indent marked .gap (Dto.interfaces rules cs ++ rows) =
      some ⟨[], cs.map fun c => c.member.interface, rest⟩ := by
  induction cs with
  | nil => exact h
  | cons c cs ih =>
    -- the reader goes on behind an interface as at the start, so the others are read already
    have hrest := ih fun d hd => hcs d (List.mem_cons_of_mem _ hd)
    rw [Dto.interfaces_cons, List.append_assoc]
    exact scan_interface hmarked (hcs c (List.mem_cons_self ..)) hrest

/-- the rows of the request end the interfaces -/
theorem scan_request (indent : String) (marked : Bool) (rows : List String) :
    scan indent marked .gap ("" :: (Dto.nested indent 1 ++ "public enum Request \x7b;") :: rows) =
      some ⟨[], [], (Dto.nested indent 1 ++ "public enum Request \x7b;") :: rows⟩ := by
  have hhead : between? (interfaceFront indent) " \x7b"
      (Dto.nested indent 1 ++ "public enum Request \x7b;") = none :=
    between?_eq_none (c := '\x7b') (by decide) (getLast?_append_ne _ (by decide) (by decide))
  rw [scan, if_pos rfl, scan, hhead]

/-! ## the request and the response -/

/-- the fields of the request class are read one by one -/
theorem readFields_requestFields (indent : String) {cs : List Column}
    (hcs : ∀ c ∈ cs, c.Regular) (rows : List String) :
    readFields (Dto.nested indent 3) (Dto.nested indent 2 ++ "\x7d")
        (cs.map (Dto.requestField indent) ++ (Dto.nested indent 2 ++ "\x7d") :: rows) =
      some (cs.map Column.member, rows) := by
  induction cs with
  | nil => exact if_pos rfl
  | cons c cs ih =>
    have hrest := ih fun d hd => hcs d (List.mem_cons_of_mem _ hd)
    have hfield : Dto.requestField indent c ≠ Dto.nested indent 2 ++ "\x7d" :=
      ne_of_getLast? ';' (getLast?_append _ (by decide))
        (getLast?_append_ne _ (by decide) (by decide))
    rw [List.map_cons, List.cons_append, readFields, if_neg hfield, hrest]
    unfold Dto.requestField
    rw [field?_row _ _ (hcs c (List.mem_cons_self ..)).fieldName]
    rfl

/-- the rows between the fields and the response do not open it -/
theorem dropWhile_responseRow (indent : String) (rows : List String) :
    ("" :: (Dto.nested indent 2 ++ "@Data") ::
      (Dto.nested indent 2 ++ "@EqualsAndHashCode(callSuper = true)") ::
      (Dto.nested indent 2 ++ "public static class Cadastro extends Base \x7b\x7d") ::
      (Dto.nested indent 1 ++ "\x7d") :: "" :: responseRow indent :: rows).dropWhile
        (· ≠ responseRow indent) = responseRow indent :: rows := by
  have hresponse : (responseRow indent).toList.getLast? = some ';' :=
    getLast?_append _ (by decide)
  refine dropWhile_ne ["", _, _, _, _, ""] (fun other hother => ?_) rows
  refine (ne_of_getLast? ';' hresponse ?_).symm
  simp only [List.mem_cons, List.not_mem_nil, or_false] at hother
  rcases hother with rfl | rfl | rfl | rfl | rfl | rfl
  · decide
  · exact getLast?_append_ne _ (by decide) (by decide)
  · exact getLast?_append_ne _ (by decide) (by decide)
  · exact getLast?_append_ne _ (by decide) (by decide)
  · exact getLast?_append_ne _ (by decide) (by decide)
  · decide

/-- the outline of a table -/
def ofTable (t : Table) : Outline where
  interfaces := t.columns.map fun c => c.member.interface
  implemented := if t.columns.map (·.accessor) = [""] then [] else t.columns.map (·.accessor)
  fields := t.columns.map Column.member
  extended := if t.columns.map (·.accessor) = [""] then [] else t.columns.map (·.accessor)

/-- what a reader is given of the transfer objects: everything behind their head -/
theorem drop_lines (rules : Rules) (t : Table) :
    (Dto.lines rules t).drop 3 = Dto.interfaces rules t.columns ++
      ("" :: (Dto.nested rules.output.indent 1 ++ "public enum Request \x7b;") ::
        (Dto.nested rules.output.indent 2 ++ "@Data") ::
        (Dto.nested rules.output.indent 2 ++ "public static class Base" ++
          Dto.clause "implements" t ++ " \x7b") ::
        (t.columns.map (Dto.requestField rules.output.indent) ++
          (Dto.nested rules.output.indent 2 ++ "\x7d") :: "" ::
          (Dto.nested rules.output.indent 2 ++ "@Data") ::
          (Dto.nested rules.output.indent 2 ++ "@EqualsAndHashCode(callSuper = true)") ::
          (Dto.nested rules.output.indent 2 ++
            "public static class Cadastro extends Base \x7b\x7d") ::
          (Dto.nested rules.output.indent 1 ++ "\x7d") :: "" ::
          responseRow rules.output.indent ::
          [Dto.nested rules.output.indent 2 ++ "public interface Buscar" ++
            Dto.clause "extends" t ++ " \x7b\x7d",
            Dto.nested rules.output.indent 1 ++ "\x7d", "\x7d"])) := by
  unfold Dto.lines Dto.requestLines Dto.responseLines responseRow
  simp only [List.append_assoc, List.cons_append, List.nil_append]
  rfl

theorem readDto_lines {t : Table} (hmarked : ReadsOver rules marked)
    (h : ∀ c ∈ t.columns, c.Regular) :
    readDto rules.output.indent marked (Dto.lines rules t) = some (ofTable t) := by
  unfold readDto
  -- one part after the other, as the reader goes: interfaces, clause, fields, clause
  rw [drop_lines, scan_interfaces hmarked h (scan_request _ _ _), Option.bind_eq_bind,
    Option.bind_some]
  dsimp only
  rw [clause?_clause _ _ _ h, Option.bind_eq_bind, Option.bind_some,
    readFields_requestFields _ h, Option.bind_eq_bind, Option.bind_some]
  dsimp only
  rw [dropWhile_responseRow]
  dsimp only
  rw [clause?_clause _ _ _ h]
  rfl

end

/-! ## rows of one line -/

theorem oneLine_nested {indent : String} (h : OneLine indent) (depth : Nat) :
    OneLine (Dto.nested indent depth) := by
  unfold Dto.nested
  induction depth with
  | zero => exact List.not_mem_nil
  | succ depth ih =>
    rw [List.replicate_succ, String.join_cons]
    exact h.append ih

theorem oneLine_intercalate {sep : String} (hsep : OneLine sep) {names : List String}
    (h : ∀ n ∈ names, OneLine n) : OneLine (String.intercalate sep names) := by
  unfold OneLine
  rw [String.toList_intercalate]
  induction names with
  | nil => exact List.not_mem_nil
  | cons n ns ih =>
    have hrest := ih fun m hm => h m (List.mem_cons_of_mem _ hm)
    cases ns with
    | nil =>
      rw [List.map_cons, List.map_nil, List.intercalate_singleton]
      exact h n (List.mem_cons_self ..)
    | cons m ms =>
      rw [List.map_cons, List.map_cons, List.intercalate_cons_cons, List.mem_append,
        List.mem_append]
      rintro ((hn | hs) | hr)
      · exact h n (List.mem_cons_self ..) hn
      · exact hsep hs
      · exact hrest hr

section
variable {rules : Rules} {indent word : String} {t : Table} {c : Column}

theorem oneLine_clause (hword : OneLine word) (h : t.Legible) : OneLine (Dto.clause word t) := by
  have hnames : OneLine (String.intercalate ", " (t.columns.map (·.accessor))) := by
    refine oneLine_intercalate (by decide) fun n hn => ?_
    obtain ⟨c, hc, rfl⟩ := List.mem_map.mp hn
    exact (h.column hc).accessor
  unfold Dto.clause
  split
  · decide
  · exact ((OneLine.append (by decide) hword).append (by decide)).append hnames

theorem oneLine_interfaceLines (hindent : OneLine rules.output.indent)
    (hmarkers : ∀ marker ∈ [rules.validation.stringMarker, rules.validation.otherMarker],
      OneLine marker) (hc : c.Legible) : ∀ row ∈ Dto.interfaceLines rules c, OneLine row := by
  have hmarks : ∀ mark ∈ Dto.getterMarks rules c, OneLine mark := by
    unfold Dto.getterMarks
    intro mark hmark
    rcases List.mem_append.mp hmark with hmark | hmark
    · split at hmark
      · rcases List.mem_cons.mp hmark with rfl | hmark
        · exact hmarkers _ (requiredMark_mem rules c)
        · split at hmark
          · cases hmark
          · rw [List.mem_singleton.mp hmark]
            exact hc.constraint
      · cases hmark
    · split at hmark
      · rw [List.mem_singleton.mp hmark]
        decide
      · cases hmark
  have hnested := oneLine_nested hindent
  unfold Dto.interfaceLines
  simp only [List.forall_mem_append, List.forall_mem_cons, List.forall_mem_map]
  refine ⟨⟨⟨?_, nofun⟩, fun mark hmark => (hnested 2).append (hmarks mark hmark)⟩, ?_, ?_, nofun⟩
  · exact (((hnested 1).append (by decide)).append hc.accessor).append (by decide)
  · exact ((((hnested 2).append hc.targetType).append (by decide)).append hc.accessor).append
      (by decide)
  · exact (hnested 1).append (by decide)

theorem oneLine_dto_lines (h : t.Legible) (hindent : OneLine rules.output.indent)
    (hmarkers : ∀ marker ∈ [rules.validation.stringMarker, rules.validation.otherMarker],
      OneLine marker) : ∀ row ∈ Dto.lines rules t, OneLine row := by
  have hnested := oneLine_nested hindent
  have hrequest : ∀ row ∈ Dto.requestLines rules.output.indent t, OneLine row := by
    unfold Dto.requestLines
    simp only [List.forall_mem_append, List.forall_mem_cons, List.forall_mem_map]
    refine ⟨⟨⟨?_, ?_, ?_, nofun⟩, fun c hc => ?_⟩, ?_, by decide, ?_, ?_, ?_, ?_, nofun⟩
    · exact (hnested 1).append (by decide)
    · exact (hnested 2).append (by decide)
    · exact (((hnested 2).append (by decide)).append (oneLine_clause (by decide) h)).append
        (by decide)
    · have hc := h.column hc
      unfold Dto.requestField
      exact (((((hnested 3).append (by decide)).append hc.targetType).append (by decide)).append
        hc.field).append (by decide)
    · exact (hnested 2).append (by decide)
    · exact (hnested 2).append (by decide)
    · exact (hnested 2).append (by decide)
    · exact (hnested 2).append (by decide)
    · exact (hnested 1).append (by decide)
  have hresponse : ∀ row ∈ Dto.responseLines rules.output.indent t, OneLine row := by
    unfold Dto.responseLines
    simp only [List.forall_mem_cons]
    refine ⟨?_, ?_, ?_, nofun⟩
    · exact (hnested 1).append (by decide)
    · exact (((hnested 2).append (by decide)).append (oneLine_clause (by decide) h)).append
        (by decide)
    · exact (hnested 1).append (by decide)
  have hinterfaces : ∀ row ∈ Dto.interfaces rules t.columns, OneLine row := by
    unfold Dto.interfaces
    intro row hrow
    obtain ⟨c, hc, hrow⟩ := List.mem_flatMap.mp hrow
    rcases List.mem_cons.mp hrow with rfl | hrow
    · decide
    · exact oneLine_interfaceLines hindent hmarkers (h.column hc) row hrow
  have htype : OneLine ("public enum " ++ t.typeName ++ "DTO \x7b;") :=
    (OneLine.append (by decide) h.typeName).append (by decide)
  unfold Dto.lines
  simp only [List.forall_mem_append, List.forall_mem_cons]
  exact ⟨⟨⟨⟨⟨⟨⟨by decide, by decide, htype, nofun⟩, hinterfaces⟩, by decide, nofun⟩, hrequest⟩,
    by decide, nofun⟩, hresponse⟩, by decide, nofun⟩

end

end Outline

end DdlToJava
