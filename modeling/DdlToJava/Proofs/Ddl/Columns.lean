import DdlToJava.Ddl.Statement
import DdlToJava.Proofs.Ddl.Scan
import DdlToJava.Proofs.Outcome
import DdlToJava.Proofs.Text.Search

/-!
# What a statement gives

`Table.ofDdl` reads a header, a key and the lines of the columns, and every kept line becomes a
column.  This file says so as equations, so that nothing else has to open it:

* `column_eq_ok`     what a column is that a line gives;
* `column_isKey`     the key flag neither causes a fault nor changes anything else;
* `ofDdl_eq_ok`      what a table is that a statement gives;
* `ofDdl_eq_iff`     when two statements with the same declarations give the same.

`splitRepeated_perm` says that no line is lost between the columns and the duplicates.
-/

namespace DdlToJava

open Text Ddl

namespace Ddl

/-! ## columns -/

/-- the column `c` is what the line `l` declares under the rules -/
structure Declares (rules : Rules) (l : ColumnLine) (isKey : Bool) (c : Column) : Prop where
  name : c.name = l.name
  fieldName : rules.naming.fieldName l.name = .ok c.fieldName
  accessor : c.accessor = accessorName c.fieldName
  type : ∃ p s, readSize l.size.precision = .ok p ∧ readSize l.size.scale = .ok s ∧
    rules.types.javaType l.typeName p s = .ok ⟨c.targetType, c.constraint⟩
  isKey : c.isKey = isKey

theorem column_eq_ok {rules : Rules} {l : ColumnLine} {isKey : Bool} {c : Column} :
    column rules l isKey = .ok c ↔ Declares rules l isKey c := by
  unfold column
  constructor
  · intro h
    obtain ⟨p, hp, h⟩ := bind_eq_ok.mp h
    obtain ⟨s, hs, h⟩ := bind_eq_ok.mp h
    obtain ⟨ty, hty, h⟩ := bind_eq_ok.mp h
    obtain ⟨field, hfield, h⟩ := bind_eq_ok.mp h
    cases h
    exact ⟨rfl, mapError_eq_ok.mp hfield, rfl, ⟨p, s, hp, hs, mapError_eq_ok.mp hty⟩, rfl⟩
  · rintro ⟨hname, hfield, hacc, ⟨p, s, hp, hs, hty⟩, hkey⟩
    rw [hp, hs]
    show ((rules.types.javaType l.typeName p s).mapError DdlError.size >>= _) = _
    rw [hty]
    show ((rules.naming.fieldName l.name).mapError DdlError.name >>= _) = _
    rw [hfield]
    obtain ⟨name, fieldName, accessor, targetType, constraint, key⟩ := c
    simp only at hname hacc hkey
    subst hname hacc hkey
    rfl

theorem column_isKey (rules : Rules) (l : ColumnLine) (isKey : Bool) :
    column rules l isKey = (column rules l false).map fun c => { c with isKey := isKey } := by
  unfold column
  cases readSize l.size.precision with
  | error e => rfl
  | ok p =>
    cases readSize l.size.scale with
    | error e => rfl
    | ok s =>
      show ((rules.types.javaType l.typeName p s).mapError DdlError.size >>= _) =
        Except.map _ ((rules.types.javaType l.typeName p s).mapError DdlError.size >>= _)
      cases rules.types.javaType l.typeName p s with
      | error e => rfl
      | ok ty =>
        show ((rules.naming.fieldName l.name).mapError DdlError.name >>= _) =
          Except.map _ ((rules.naming.fieldName l.name).mapError DdlError.name >>= _)
        cases rules.naming.fieldName l.name with
        | error e => rfl
        | ok field => rfl

/-- the text behind a column does not matter for what the column is -/
theorem column_congr (rules : Rules) {l m : ColumnLine} (hname : l.name = m.name)
    (htype : l.typeName = m.typeName) (hsize : l.size = m.size) (isKey : Bool) :
    column rules l isKey = column rules m isKey := by
  unfold column
  rw [hname, htype, hsize]

/-! ## repeated lines -/

theorem splitRepeated_seen {seen : List String} {l : ColumnLine} (h : seen.contains l.name = true)
    (ls : List ColumnLine) : splitRepeated seen (l :: ls) =
      ((splitRepeated seen ls).1, l.name :: (splitRepeated seen ls).2) := by
  rw [splitRepeated, if_pos h]

theorem splitRepeated_new {seen : List String} {l : ColumnLine} (h : seen.contains l.name = false)
    (ls : List ColumnLine) : splitRepeated seen (l :: ls) =
      (l :: (splitRepeated (l.name :: seen) ls).1, (splitRepeated (l.name :: seen) ls).2) := by
  rw [splitRepeated, if_neg (by rw [h]; exact Bool.false_ne_true)]

/-- every line is kept or repeated -/
theorem splitRepeated_perm (seen : List String) (ls : List ColumnLine) :
    ((splitRepeated seen ls).1.map (·.name) ++ (splitRepeated seen ls).2).Perm
      (ls.map (·.name)) := by
  induction ls generalizing seen with
  | nil => exact List.Perm.refl _
  | cons l ls ih =>
    cases h : seen.contains l.name with
    | true =>
      rw [splitRepeated_seen h]
      exact List.perm_middle.trans ((ih seen).cons l.name)
    | false =>
      rw [splitRepeated_new h]
      exact (ih (l.name :: seen)).cons l.name

/-- lines with different names are all kept -/
theorem splitRepeated_of_nodup {seen : List String} {ls : List ColumnLine}
    (h : (ls.map (·.name)).Nodup) (hs : ∀ l ∈ ls, l.name ∉ seen) :
    splitRepeated seen ls = (ls, []) := by
  induction ls generalizing seen with
  | nil => rfl
  | cons l ls ih =>
    obtain ⟨hl, h⟩ := List.nodup_cons.mp h
    have hc : seen.contains l.name = false := by
      rw [List.contains_eq_mem, decide_eq_false_iff_not]
      exact hs l (List.mem_cons_self ..)
    rw [splitRepeated_new hc, ih h]
    intro m hm hmem
    rcases List.mem_cons.mp hmem with he | hmem
    · apply hl
      show l.name ∈ _
      rw [← he]
      exact List.mem_map_of_mem hm
    · exact hs m (List.mem_cons_of_mem l hm) hmem

/-! ## names -/

theorem fieldName_ok (rules : NamingRules) {name : String} (h : name ≠ "") :
    ∃ field, rules.fieldName name = .ok field := by
  unfold NamingRules.fieldName
  rw [if_neg h]
  exact ⟨_, rfl⟩

theorem typeName_ok (rules : NamingRules) {name : String} (h : name ≠ "") :
    ∃ type, rules.typeName name = .ok type := by
  unfold NamingRules.typeName
  rw [if_neg h]
  exact ⟨_, rfl⟩

/-- a name of word characters -/
def IsWordName (s : String) : Prop := s ≠ "" ∧ ∀ c ∈ s.toList, isWord c = true

theorem isWordName_of_word? {cs w r : List Char} (h : word? cs = some (w, r)) :
    IsWordName (String.ofList w) := by
  obtain ⟨_, hne, hw⟩ := run?_eq_append h
  constructor
  · intro he
    apply hne
    rw [← String.toList_ofList (l := w), he]
    rfl
  · rw [String.toList_ofList]
    exact hw

namespace ColumnLine

/-- the name of a column is the whole word at the front of its line -/
theorem word?_of_read? {cs : List Char} {l : ColumnLine} (h : read? cs = some l) :
    ∃ r, word? cs = some (l.name.toList, r) := by
  obtain ⟨⟨name, r⟩, hname, h⟩ := Option.bind_eq_some_iff.mp h
  obtain ⟨cs, _, h⟩ := Option.bind_eq_some_iff.mp h
  obtain ⟨⟨typeName, cs⟩, _, h⟩ := Option.bind_eq_some_iff.mp h
  have hl : l.name = String.ofList name := by
    dsimp only at h
    split at h
    · cases h
      rfl
    · cases h
      rfl
  rw [hl, String.toList_ofList]
  exact ⟨r, hname⟩

theorem read?_of_ofLine? {line : List Char} {l : ColumnLine} (h : ofLine? line = some l) :
    isForeign line = false ∧ read? line = some l := by
  unfold ofLine? at h
  split at h
  · cases h
  · next hf => exact ⟨Bool.eq_false_iff.mpr hf, h⟩

/-- the name of a column opens no other clause: what is judged is the word that is read -/
theorem isClauseKeyword_name {line : List Char} {l : ColumnLine} (h : ofLine? line = some l) :
    isClauseKeyword l.name.toList = false := by
  obtain ⟨hforeign, hread⟩ := read?_of_ofLine? h
  obtain ⟨r, hword⟩ := word?_of_read? hread
  rw [(run?_eq_some isWord hword).1]
  exact (Bool.or_eq_false_iff.mp hforeign).2

end ColumnLine

theorem isWordName_of_mem_columnLines {cs : List Char} {l : ColumnLine} (h : l ∈ columnLines cs) :
    IsWordName l.name := by
  obtain ⟨line, _, hline⟩ := List.mem_filterMap.mp h
  obtain ⟨r, hword⟩ := ColumnLine.word?_of_read? (ColumnLine.read?_of_ofLine? hline).2
  have hname := isWordName_of_word? hword
  rwa [String.ofList_toList] at hname

namespace TableName

theorem eq_of_parts {m n : TableName} (hschema : m.schema = n.schema) (hname : m.name = n.name) :
    m = n := by
  cases m
  cases n
  simp only at hschema hname
  rw [hschema, hname]

theorem headerAt?_eq_some {read : List Char → Option TableName} {cs : List Char} {n : TableName}
    (h : headerAt? read cs = some n) :
    ∃ r, createTable? cs = some r ∧
      ((∃ r', ifNotExists? r = some r' ∧ read r' = some n) ∨ read r = some n) := by
  obtain ⟨r, hr, h⟩ := Option.bind_eq_some_iff.mp h
  refine ⟨r, hr, ?_⟩
  rcases Option.or_eq_some_iff.mp h with h | ⟨_, h⟩
  · exact Or.inl (Option.bind_eq_some_iff.mp h)
  · exact Or.inr h

theorem dotted?_isWordName {cs : List Char} {n : TableName} (h : dotted? cs = some n) :
    IsWordName n.schema ∧ IsWordName n.name := by
  obtain ⟨⟨schema, r⟩, h1, h⟩ := Option.bind_eq_some_iff.mp h
  obtain ⟨r', _, h⟩ := Option.bind_eq_some_iff.mp h
  obtain ⟨⟨name, r''⟩, h3, h⟩ := Option.bind_eq_some_iff.mp h
  cases h
  exact ⟨isWordName_of_word? h1, isWordName_of_word? h3⟩

theorem isWordName_defaultSchema : IsWordName defaultSchema := by
  constructor
  · decide
  · decide +kernel

theorem plain?_isWordName {cs : List Char} {n : TableName} (h : plain? cs = some n) :
    IsWordName n.schema ∧ IsWordName n.name := by
  obtain ⟨⟨name, r⟩, h1, h⟩ := Option.bind_eq_some_iff.mp h
  cases h
  exact ⟨isWordName_defaultSchema, isWordName_of_word? h1⟩

/-- a schema and a table are words, whether they are read or stand in for what is missing -/
theorem ofText_isWordName (cs : List Char) :
    IsWordName (ofText cs).schema ∧ IsWordName (ofText cs).name := by
  have header {read : List Char → Option TableName} {n : TableName}
      (hread : ∀ {cs n}, read cs = some n → IsWordName n.schema ∧ IsWordName n.name)
      (h : findFirst? (headerAt? read) cs = some n) : IsWordName n.schema ∧ IsWordName n.name := by
    obtain ⟨s, _, hs⟩ := findFirst?_eq_some h
    obtain ⟨r, _, ⟨r', _, h⟩ | h⟩ := headerAt?_eq_some hs
    · exact hread h
    · exact hread h
  unfold ofText
  cases h1 : findFirst? (headerAt? dotted?) cs with
  | some n => exact header dotted?_isWordName h1
  | none =>
    cases h2 : findFirst? (headerAt? plain?) cs with
    | some n => exact header plain?_isWordName h2
    | none =>
      refine ⟨isWordName_defaultSchema, ?_, ?_⟩
      · decide
      · decide +kernel

end TableName

/-! ## tables -/

/-- a statement as it is read -/
def unquoted (ddl : String) : List Char := ddl.toList.filter (· ≠ '"')

/-- a statement of lines -/
def written (ls : List (List Char)) : String := String.ofList (joined ls)

/-- a line as it is read -/
def bare (l : List Char) : List Char := l.filter (· ≠ '"')

theorem unquoted_written (ls : List (List Char)) :
    unquoted (written ls) = joined (ls.map bare) := by
  unfold unquoted written
  rw [String.toList_ofList]
  exact filter_joined (by decide) ls

/-- the lines of a statement that become columns, and the names of the others -/
def keptLines (cs : List Char) : List ColumnLine := (splitRepeated [] (columnLines cs)).1

def repeatedNames (cs : List Char) : List String := (splitRepeated [] (columnLines cs)).2

theorem ofDdl_eq (rules : Rules) (ddl : String) :
    ∃ type, rules.naming.typeName (TableName.ofText (unquoted ddl)).name = .ok type ∧
      Table.ofDdl rules ddl =
        ((keptLines (unquoted ddl)).mapM fun l =>
          column rules l (isKeyLine (tableKey (unquoted ddl)) l)).map fun cols => {
            schema := (TableName.ofText (unquoted ddl)).schema
            name := (TableName.ofText (unquoted ddl)).name
            typeName := type
            columns := cols
            duplicates := repeatedNames (unquoted ddl) } := by
  obtain ⟨type, htype⟩ :=
    typeName_ok rules.naming (TableName.ofText_isWordName (unquoted ddl)).2.1
  refine ⟨type, htype, ?_⟩
  unfold Table.ofDdl
  show (Ddl.columns rules (tableKey (unquoted ddl)) (unquoted ddl) >>= fun p =>
    (rules.naming.typeName (TableName.ofText (unquoted ddl)).name).mapError DdlError.name >>= _) = _
  rw [htype]
  unfold Ddl.columns
  show (((keptLines (unquoted ddl)).mapM _ >>= fun cols => _) >>= _) = _
  cases (keptLines (unquoted ddl)).mapM fun l =>
    column rules l (isKeyLine (tableKey (unquoted ddl)) l) with
  | error e => rfl
  | ok cols => rfl

/-- a table is what a statement gives exactly when its parts are what the parts of the statement
give -/
theorem ofDdl_eq_ok {rules : Rules} {ddl : String} {t : Table} :
    Table.ofDdl rules ddl = .ok t ↔
      t.schema = (TableName.ofText (unquoted ddl)).schema ∧
      t.name = (TableName.ofText (unquoted ddl)).name ∧
      rules.naming.typeName t.name = .ok t.typeName ∧
      List.Forall₂ (fun l c => Declares rules l (isKeyLine (tableKey (unquoted ddl)) l) c)
        (keptLines (unquoted ddl)) t.columns ∧
      t.duplicates = repeatedNames (unquoted ddl) := by
  obtain ⟨type, htype, h⟩ := ofDdl_eq rules ddl
  rw [h]
  simp only [← column_eq_ok, ← mapM_eq_ok]
  constructor
  · intro h
    cases hm : (keptLines (unquoted ddl)).mapM fun l =>
        column rules l (isKeyLine (tableKey (unquoted ddl)) l) with
    | error e =>
      rw [hm] at h
      cases h
    | ok cols =>
      rw [hm] at h
      cases h
      exact ⟨rfl, rfl, htype, rfl, rfl⟩
  · rintro ⟨hschema, hname, ht, hm, hdup⟩
    rw [hm]
    rw [hname, htype] at ht
    cases ht
    obtain ⟨schema, name, typeName, columns, duplicates⟩ := t
    simp only at hschema hname hdup
    subst hschema hname hdup
    rfl

/-! ## the same declarations -/

/-- the two lines declare the same name, type and size -/
structure SameDeclaration (l m : ColumnLine) : Prop where
  name : l.name = m.name
  typeName : l.typeName = m.typeName
  size : l.size = m.size

theorem SameDeclaration.refl (l : ColumnLine) : SameDeclaration l l := ⟨rfl, rfl, rfl⟩

/-- lines that are related one by one, and have the same names, are kept and repeated alike -/
theorem splitRepeated_forall₂ {R : ColumnLine → ColumnLine → Prop}
    (hR : ∀ l m, R l m → l.name = m.name) {ls ms : List ColumnLine} (h : List.Forall₂ R ls ms)
    (seen : List String) :
    List.Forall₂ R (splitRepeated seen ls).1 (splitRepeated seen ms).1 ∧
      (splitRepeated seen ls).2 = (splitRepeated seen ms).2 := by
  induction h generalizing seen with
  | nil => exact ⟨List.Forall₂.nil, rfl⟩
  | @cons l m ls ms hl _ ih =>
    have hname := hR l m hl
    cases hs : seen.contains l.name with
    | true =>
      rw [splitRepeated_seen hs, splitRepeated_seen (by rw [← hname]; exact hs), hname, (ih seen).2]
      exact ⟨(ih seen).1, rfl⟩
    | false =>
      rw [splitRepeated_new hs, splitRepeated_new (by rw [← hname]; exact hs), hname]
      exact ⟨List.Forall₂.cons hl (ih _).1, (ih _).2⟩

/-- which of the kept lines belong to the key -/
def keyFlags (cs : List Char) : List Bool := (keptLines cs).map (isKeyLine (tableKey cs))

/-- the columns before their key flags are set -/
def unmarked (rules : Rules) (ls : List ColumnLine) : Except DdlError (List Column) :=
  ls.mapM fun l => column rules l false

/-- the columns with the given key flags -/
def marked (flags : List Bool) (cols : List Column) : List Column :=
  List.zipWith (fun b c => { c with isKey := b }) flags cols

theorem mapM_column (rules : Rules) (isKey : ColumnLine → Bool) (ls : List ColumnLine) :
    (ls.mapM fun l => column rules l (isKey l)) =
      (unmarked rules ls).map (marked (ls.map isKey)) := by
  have hfun : (fun l => column rules l (isKey l)) = fun l =>
      (column rules l false).map ((fun l (c : Column) => { c with isKey := isKey l }) l) := by
    funext l
    exact column_isKey rules l (isKey l)
  rw [hfun, mapM_map]
  unfold unmarked marked
  congr 1
  funext cols
  rw [List.zipWith_map_left]

theorem unmarked_same {rules : Rules} {ls ms : List ColumnLine}
    (h : List.Forall₂ SameDeclaration ls ms) : unmarked rules ls = unmarked rules ms := by
  induction h with
  | nil => rfl
  | @cons l m ls ms hl _ ih =>
    unfold unmarked at ih ⊢
    rw [List.mapM_cons, List.mapM_cons, ih, column_congr rules hl.name hl.typeName hl.size]

theorem map_isKey_marked {flags : List Bool} {cols : List Column}
    (h : flags.length = cols.length) : (marked flags cols).map (·.isKey) = flags := by
  induction flags generalizing cols with
  | nil => rfl
  | cons b flags ih =>
    cases cols with
    | nil => cases h
    | cons c cols => exact congrArg _ (ih (Nat.succ.inj h))

theorem marked_inj {as bs : List Bool} {cols : List Column} (ha : as.length = cols.length)
    (hb : bs.length = cols.length) : marked as cols = marked bs cols ↔ as = bs := by
  constructor
  · intro h
    rw [← map_isKey_marked ha, h, map_isKey_marked hb]
  · intro h
    rw [h]

/-- **Statements with the same declarations give the same exactly when they have the same name and
the same key, or a fault**, which is then the same too. -/
theorem ofDdl_eq_iff {rules : Rules} {x y : String}
    (h : List.Forall₂ SameDeclaration (columnLines (unquoted x)) (columnLines (unquoted y))) :
    Table.ofDdl rules y = Table.ofDdl rules x ↔
      (∃ e, Table.ofDdl rules x = .error e) ∨
      (TableName.ofText (unquoted y) = TableName.ofText (unquoted x) ∧
        keyFlags (unquoted y) = keyFlags (unquoted x)) := by
  obtain ⟨hkept, hrepeated⟩ := splitRepeated_forall₂ (fun _ _ h => h.name) h []
  obtain ⟨tx, htx, hx⟩ := ofDdl_eq rules x
  obtain ⟨ty, hty, hy⟩ := ofDdl_eq rules y
  have hsame : unmarked rules (keptLines (unquoted y)) = unmarked rules (keptLines (unquoted x)) :=
    (unmarked_same hkept).symm
  have hdup : repeatedNames (unquoted y) = repeatedNames (unquoted x) := hrepeated.symm
  rw [mapM_column] at hx hy
  rw [hsame, hdup] at hy
  rw [hx, hy]
  cases hu : unmarked rules (keptLines (unquoted x)) with
  | error e => exact iff_of_true rfl (Or.inl ⟨e, rfl⟩)
  | ok cols =>
    have hlen : (keyFlags (unquoted x)).length = cols.length :=
      (List.length_map _).trans (mapM_eq_ok.mp hu).length_eq
    have hlen' : (keyFlags (unquoted y)).length = cols.length := by
      rw [← hlen]
      exact (List.length_map _).trans (hkept.length_eq.symm.trans (List.length_map _).symm)
    constructor
    · intro heq
      refine Or.inr ?_
      injection heq with heq
      injection heq with hschema hname htype hcols _
      exact ⟨TableName.eq_of_parts hschema hname, (marked_inj hlen' hlen).mp hcols⟩
    · rintro (⟨e, he⟩ | ⟨hname, hflags⟩)
      · cases he
      · have ht : ty = tx := by
          rw [hname, htx] at hty
          cases hty
          rfl
        have hcols := (marked_inj hlen' hlen).mpr hflags
        unfold keyFlags at hcols
        show Except.ok (Table.mk _ _ _ (marked _ _) _) = Except.ok (Table.mk _ _ _ (marked _ _) _)
        rw [ht, hname, hcols]

end Ddl

end DdlToJava
