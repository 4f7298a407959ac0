import DdlToJava.Run.Generation
import DdlToJava.Proofs.Console.Markup
import DdlToJava.Proofs.Ddl.Columns
import DdlToJava.Proofs.Text.Rows

/-!
# Notices that print

What is said of a table always prints, since every name that a statement gives is made of word
characters.  A notice on the clipboard or on a file of rules prints too; the reason and the path in
them are escaped.

* `lines`                  the lines of several notices as one text;
* `lines_tableNotices_ok`  what is said of a table that a statement declares;
* `line_configMissing_ok`, `line_configInvalid_ok`
                           what is said of a file of rules;
* `line_clipboardUnavailable_ok`
                           what is said when the clipboard fails.
-/

namespace DdlToJava

open Text Ddl Console Markup

/-- the lines of notices, one behind the other -/
def Notice.lines : List Notice → Except Markup.Fault String
  | [] => .ok ""
  | n :: ns => do
    let text ← n.line
    let more ← lines ns
    .ok (text ++ more)

/-- what notices say, up to the first that does not print -/
def Notice.spoken : List Notice → String
  | [] => ""
  | n :: ns =>
    match n.line with
    | .ok text => text ++ spoken ns
    | .error _ => ""

/-- a line ends as one -/
theorem Notice.line_eq_ok {n : Notice} {text : String} (h : n.line = .ok text) :
    ∃ words, Markup.print n.message = .ok words ∧ text = words ++ "\n" := by
  obtain ⟨words, hwords, rfl⟩ := map_eq_ok h
  exact ⟨words, hwords, rfl⟩

/-! ## literal texts -/

theorem literal_of_isWordName {s : String} (h : IsWordName s) : Literal s.toList := by
  intro c hc
  have hword := h.2 c hc
  constructor
  · rintro rfl
    cases hword
  · rintro rfl
    cases hword

theorem literal_typeName {rules : NamingRules} {name type : String} (h : IsWordName name)
    (htype : rules.typeName name = .ok type) : Literal type.toList := by
  have hname := literal_of_isWordName h
  intro c hc
  constructor
  · rintro rfl
    exact (hname _ (mem_typeName (by decide) htype hc)).1 rfl
  · rintro rfl
    exact (hname _ (mem_typeName (by decide) htype hc)).2 rfl

theorem literal_toString (n : Nat) : Literal (toString n).toList := by
  intro c hc
  constructor
  · rintro rfl
    exact not_mem_natRepr rfl n hc
  · rintro rfl
    exact not_mem_natRepr rfl n hc

theorem literal_intercalate {sep : String} (hsep : Literal sep.toList) {names : List String}
    (h : ∀ s ∈ names, Literal s.toList) : Literal (String.intercalate sep names).toList := by
  rw [String.toList_intercalate]
  induction names with
  | nil =>
    intro c hc
    cases hc
  | cons s names ih =>
    have hs := h s (List.mem_cons_self ..)
    cases names with
    | nil =>
      rw [List.map_cons, List.map_nil, List.intercalate_singleton]
      exact hs
    | cons s' names =>
      rw [List.map_cons, List.map_cons, List.intercalate_cons_cons]
      exact (hs.append hsep).append (ih fun x hx => h x (List.mem_cons_of_mem _ hx))

/-! ## messages -/

section
variable {opened : List Opened} {style text more : String}

theorem prints_literal (h : Literal text.toList) (hmore : Prints opened more.toList) :
    Prints opened (text ++ more).toList := by
  rw [String.toList_append]
  exact Prints.literal h hmore

theorem prints_last (h : Literal text.toList) : Prints opened text.toList := by
  rw [← List.append_nil text.toList]
  exact Prints.literal h Prints.nil

/-- a styled text prints if it prints in front of a tag -/
theorem prints_styled_of (hs : IsStyle style.toList)
    (h : ∀ {opened' : List Opened} {rest : List Char}, Prints opened' ('[' :: rest) →
      Prints opened' (text.toList ++ '[' :: rest))
    (hmore : Prints opened more.toList) :
    Prints opened (Notice.styled style text ++ more).toList := by
  have hlist : (Notice.styled style text ++ more).toList = '[' :: (style.toList ++ ']' ::
      (text.toList ++ '[' :: '/' :: (style.toList ++ ']' :: more.toList))) := by
    unfold Notice.styled
    simp only [String.toList_append, List.append_assoc]
    rfl
  rw [hlist]
  exact Prints.styled hs h hmore

theorem prints_styled (hs : IsStyle style.toList) (h : Literal text.toList)
    (hmore : Prints opened more.toList) :
    Prints opened (Notice.styled style text ++ more).toList :=
  prints_styled_of hs (Prints.literal h) hmore

theorem prints_styled_last (hs : IsStyle style.toList) (h : Literal text.toList) :
    Prints opened (Notice.styled style text).toList := by
  have hprints : Prints opened (Notice.styled style text ++ "").toList :=
    prints_styled hs h Prints.nil
  rw [String.append_empty] at hprints
  exact hprints

end

theorem isStyle_bold : IsStyle "bold".toList := ⟨by decide, by decide, by decide, by decide⟩

theorem isStyle_green : IsStyle "green".toList := ⟨by decide, by decide, by decide, by decide⟩

theorem isStyle_yellow : IsStyle "yellow".toList := ⟨by decide, by decide, by decide, by decide⟩

theorem isStyle_boldGreen : IsStyle "bold green".toList :=
  ⟨by decide, by decide, by decide, by decide⟩

theorem line_ok {n : Notice} (h : Prints [] n.message.toList) : ∃ text, n.line = .ok text := by
  obtain ⟨text, htext⟩ := print_ok h
  unfold Notice.line
  rw [htext]
  exact ⟨_, rfl⟩

theorem lines_ok {ns : List Notice} (h : ∀ n ∈ ns, ∃ text, n.line = .ok text) :
    ∃ text, Notice.lines ns = .ok text := by
  induction ns with
  | nil => exact ⟨"", rfl⟩
  | cons n ns ih =>
    obtain ⟨text, htext⟩ := h n (List.mem_cons_self ..)
    obtain ⟨more, hmore⟩ := ih fun m hm => h m (List.mem_cons_of_mem _ hm)
    unfold Notice.lines
    rw [htext, hmore]
    exact ⟨text ++ more, rfl⟩

theorem lines_singleton (n : Notice) : Notice.lines [n] = n.line := by
  unfold Notice.lines
  cases n.line with
  | error fault => rfl
  | ok text =>
    show Except.ok (text ++ "") = _
    rw [String.append_empty]

/-! ## the clipboard -/

theorem line_copied_ok : ∃ text, Notice.copied.line = .ok text :=
  line_ok (prints_styled_last isStyle_boldGreen (by decide +kernel))

/-- the reason is escaped, so it prints whatever it is -/
theorem line_clipboardUnavailable_ok (reason : String) :
    ∃ text, (Notice.clipboardUnavailable reason).line = .ok text := by
  refine line_ok ?_
  show Prints [] (Notice.styled "yellow" "Clipboard unavailable:" ++ " " ++ escape reason).toList
  rw [String.append_assoc]
  refine prints_styled isStyle_yellow (by decide +kernel) ?_
  exact prints_literal (by decide) (prints_escape reason)

/-! ## a file of rules -/

/-- a literal text around an escaped one, in front of a tag -/
theorem prints_around_escape {opened : List Opened} {before text after : String}
    {rest : List Char} (hbefore : Literal before.toList) (hafter : Literal after.toList)
    (hne : after.toList ≠ []) (hclose : ']' ∉ after.toList) (h : Prints opened ('[' :: rest)) :
    Prints opened ((before ++ escape text ++ after).toList ++ '[' :: rest) := by
  obtain ⟨c, more, hmore⟩ := List.exists_cons_of_ne_nil hne
  rw [hmore] at hafter hclose
  rw [String.toList_append, String.toList_append, List.append_assoc, List.append_assoc, hmore]
  exact Prints.literal hbefore (prints_escape_literal text hafter hclose h)

/-- the path is escaped, so it prints whatever it is -/
theorem line_configMissing_ok (p : Path) : ∃ text, (Notice.configMissing p).line = .ok text := by
  refine line_ok ?_
  show Prints [] (Notice.styled "yellow" _).toList
  rw [← String.append_empty (s := Notice.styled "yellow" _)]
  refine prints_styled_of isStyle_yellow (prints_around_escape ?_ ?_ ?_ ?_) Prints.nil
  all_goals decide +kernel

/-- the path and the reason are escaped -/
theorem line_configInvalid_ok (p : Path) (reason : String) :
    ∃ text, (Notice.configInvalid p reason).line = .ok text := by
  refine line_ok ?_
  show Prints [] (Notice.styled "yellow" _ ++ " " ++ escape reason).toList
  rw [String.append_assoc]
  refine prints_styled_of isStyle_yellow (prints_around_escape ?_ ?_ ?_ ?_)
    (prints_literal (by decide) (prints_escape reason))
  all_goals decide +kernel

/-! ## a table -/

theorem line_tableFound_ok {t : Table} (hschema : Literal t.schema.toList)
    (hname : Literal t.name.toList) (htype : Literal t.typeName.toList) :
    ∃ text, (Notice.tableFound t).line = .ok text := by
  refine line_ok ?_
  unfold Notice.message
  simp only [String.append_assoc]
  refine prints_styled isStyle_bold (by decide +kernel) ?_
  refine prints_literal (by decide) (prints_literal hschema ?_)
  refine prints_literal (by decide) (prints_literal hname ?_)
  exact prints_literal (by decide) (prints_last htype)

theorem line_columnsFound_ok (t : Table) : ∃ text, (Notice.columnsFound t).line = .ok text := by
  refine line_ok ?_
  unfold Notice.message
  simp only [String.append_assoc]
  refine prints_literal (by decide) (prints_styled isStyle_green (literal_toString _) ?_)
  refine prints_literal (by decide +kernel) (prints_styled isStyle_green (literal_toString _) ?_)
  exact prints_last (by decide +kernel)

theorem line_noColumns_ok : ∃ text, Notice.noColumns.line = .ok text :=
  line_ok (prints_styled_last isStyle_yellow (by decide +kernel))

theorem line_duplicatesIgnored_ok {names : List String} (h : ∀ s ∈ names, Literal s.toList) :
    ∃ text, (Notice.duplicatesIgnored names).line = .ok text := by
  refine line_ok ?_
  unfold Notice.message
  simp only [String.append_assoc]
  refine prints_styled isStyle_yellow (by decide +kernel) ?_
  exact prints_literal (by decide) (prints_last (literal_intercalate (by decide) h))

theorem isWordName_of_mem_duplicates {rules : Rules} {ddl : String} {t : Table}
    (h : Table.ofDdl rules ddl = .ok t) : ∀ s ∈ t.duplicates, IsWordName s := by
  intro s hs
  obtain ⟨-, -, -, -, hdup⟩ := ofDdl_eq_ok.mp h
  rw [hdup] at hs
  have hmem := (splitRepeated_perm [] (columnLines (unquoted ddl))).subset
    (List.mem_append_right _ hs)
  obtain ⟨l, hl, rfl⟩ := List.mem_map.mp hmem
  exact isWordName_of_mem_columnLines hl

/-- what is said of a table that a statement declares prints -/
theorem lines_tableNotices_ok {rules : Rules} {ddl : String} {t : Table}
    (h : Table.ofDdl rules ddl = .ok t) : ∃ text, Notice.lines (tableNotices t) = .ok text := by
  obtain ⟨hschema, hname, htype, -, -⟩ := ofDdl_eq_ok.mp h
  obtain ⟨hwordSchema, hwordName⟩ := TableName.ofText_isWordName (unquoted ddl)
  rw [← hschema] at hwordSchema
  rw [← hname] at hwordName
  refine lines_ok fun n hn => ?_
  rcases List.mem_append.mp hn with hn | hn
  · rcases List.mem_append.mp hn with hn | hn
    · rcases List.mem_cons.mp hn with rfl | hn
      · exact line_tableFound_ok (literal_of_isWordName hwordSchema)
          (literal_of_isWordName hwordName) (literal_typeName hwordName htype)
      · rw [List.mem_singleton.mp hn]
        exact line_columnsFound_ok t
    · split at hn
      · rw [List.mem_singleton.mp hn]
        exact line_noColumns_ok
      · cases hn
  · split at hn
    · cases hn
    · rw [List.mem_singleton.mp hn]
      refine line_duplicatesIgnored_ok fun s hs => ?_
      exact literal_of_isWordName (isWordName_of_mem_duplicates h s hs)

end DdlToJava
