import DdlToJava.Proofs.Ddl.Kept
import DdlToJava.Proofs.Ddl.Remark
import DdlToJava.Proofs.Ddl.Settled
import DdlToJava.Proofs.Text.Filled

/-!
# The layout of a statement

Blank lines, the blanks at both ends of a line and the kind of its break do not matter: a statement
gives what its lines give when they are trimmed, the blank ones left out, and a line feed put
between them (`ofDdl_tidy`).

The columns are read from trimmed lines anyway.  The header and the key are read from the whole
text, across its lines; there a break counts as a blank, and two texts with the same filled lines
differ in the number and the kind of their blanks only.

* `ofText_squeeze`, `mem_tableKey_squeeze`
                       blanks change neither the name nor the names of the key that are words;
* `ofText_newlines`, `tableKey_newlines`
                       nor do blanks at the ends of the text;
* `ofDdl_congr`        statements with the same filled lines give the same;
* `tidyLines_bare`     the quotes may be dropped before or after the lines are trimmed.
-/

namespace DdlToJava.Ddl

open Text

/-! ## readers of a squeezed text -/

/-- the reader does not see how many blanks there are: from the squeezed text it reads the same,
but for the change `f` -/
def Blind {α : Type} (read : List Char → Option α) (f : α → α) : Prop :=
  ∀ cs, read (squeeze cs) = (read cs).map f

/-- a reader, and a second one behind it -/
theorem Blind.bind {α : Type} {first : List Char → Option (List Char)}
    {read : List Char → Option α} {f : α → α} (hfirst : Blind first squeeze)
    (hread : Blind read f) : Blind (fun cs => (first cs).bind read) f := by
  intro cs
  dsimp only
  rw [hfirst]
  cases first cs with
  | none => rfl
  | some r => exact hread r

theorem blind_keyword? {k : List Char} (hk : k ∈ openWords) : Blind (keyword? k) squeeze :=
  keyword?_squeeze (isLower_of_mem_openWords hk)

/-- a keyword and the blanks behind it -/
theorem blind_word {k : List Char} (hk : k ∈ openWords) :
    Blind (fun cs => (keyword? k cs).bind blanks?) squeeze :=
  (blind_keyword? hk).bind blanks?_squeeze

namespace TableName

theorem blind_createTable? : Blind createTable? squeeze := by
  rw [funext createTable?_eq]
  exact (blind_word (by decide)).bind (blind_word (by decide))

theorem blind_ifNotExists? : Blind ifNotExists? squeeze := by
  rw [funext ifNotExists?_eq]
  exact (blind_word (by decide)).bind ((blind_word (by decide)).bind (blind_word (by decide)))

theorem blind_dotted? : Blind dotted? id := by
  intro cs
  rw [Option.map_id_apply]
  unfold dotted?
  rw [word?_squeeze]
  cases word? cs with
  | none => rfl
  | some x =>
    show (symbol? '.' (squeeze x.2)).bind _ = (symbol? '.' x.2).bind _
    rw [symbol?_squeeze (by decide)]
    cases symbol? '.' x.2 with
    | none => rfl
    | some r =>
      show (word? (squeeze r)).bind _ = (word? r).bind _
      rw [word?_squeeze]
      cases word? r with
      | none => rfl
      | some y => rfl

theorem blind_plain? : Blind plain? id := by
  intro cs
  rw [Option.map_id_apply]
  unfold plain?
  rw [word?_squeeze]
  cases word? cs with
  | none => rfl
  | some x => rfl

theorem blind_headerAt? {read : List Char → Option TableName} (hread : Blind read id) :
    Blind (headerAt? read) id := by
  refine blind_createTable?.bind fun r => ?_
  have hexists := (blind_ifNotExists?.bind hread) r
  dsimp only at hexists
  rw [hexists, hread, ← Option.map_or]

/-- nothing but a word begins a header -/
theorem headerAt?_blank (read : List Char → Option TableName) (c : Char) (cs : List Char)
    (hc : isSpace c = true) : headerAt? read (c :: cs) = none := by
  have hkeyword : keyword? "create".toList (c :: cs) = none :=
    keyword?_blank (k := 'c') hc rfl "reate".toList cs
  unfold headerAt? createTable?
  rw [hkeyword]
  rfl

theorem ofText_squeeze (cs : List Char) : ofText (squeeze cs) = ofText cs := by
  have hfind {read : List Char → Option TableName} (hread : Blind read id) :
      findFirst? (headerAt? read) (squeeze cs) = findFirst? (headerAt? read) cs := by
    rw [findFirst?_squeeze (headerAt?_blank read) (blind_headerAt? hread), Option.map_id_apply]
  unfold ofText
  rw [hfind blind_dotted?, hfind blind_plain?]

end TableName

theorem blind_primaryKey? : Blind primaryKey? squeeze := by
  rw [funext primaryKey?_eq]
  exact (blind_word (by decide)).bind (blind_keyword? (by decide))

/-- the text of a list up to its closing parenthesis -/
def listText? (cs : List Char) : Option (List Char) := do
  let (names, cs) ← run? (· ≠ ')') cs
  let _ ← symbol? ')' cs
  some names

theorem keyListAt?_listText (cs : List Char) :
    keyListAt? cs = (primaryKey? cs).bind fun r => (symbol? '(' (trimStart r)).bind listText? := rfl

theorem keyListAt?_keywords (cs : List Char) : keyListAt? cs =
    ((keyword? "primary".toList cs).bind blanks?).bind fun r =>
      (keyword? "key".toList r).bind fun t => (symbol? '(' (trimStart t)).bind listText? := by
  rw [keyListAt?_listText, primaryKey?_eq, Option.bind_assoc]

theorem blind_listText? : Blind listText? squeeze := by
  intro cs
  have hblank : ∀ c, isSpace c = true → decide (c ≠ ')') = true := by
    intro c hc
    rw [decide_eq_true_iff]
    rintro rfl
    cases hc
  unfold listText?
  rw [run?_squeeze_of_space hblank]
  cases run? (· ≠ ')') cs with
  | none => rfl
  | some x =>
    show (symbol? ')' (squeeze x.2)).bind _ = ((symbol? ')' x.2).bind _).map squeeze
    rw [symbol?_squeeze (by decide)]
    cases symbol? ')' x.2 with
    | none => rfl
    | some r => rfl

theorem blind_keyListAt? : Blind keyListAt? squeeze := by
  have hopen : Blind (fun r => symbol? '(' (trimStart r)) squeeze := by
    intro r
    dsimp only
    rw [trimStart_squeeze, symbol?_squeeze (by decide)]
  exact blind_primaryKey?.bind (hopen.bind blind_listText?)

theorem keyListAt?_blank (c : Char) (cs : List Char) (hc : isSpace c = true) :
    keyListAt? (c :: cs) = none := by
  have hkeyword : keyword? "primary".toList (c :: cs) = none :=
    keyword?_blank (k := 'p') hc rfl "rimary".toList cs
  unfold keyListAt? primaryKey?
  rw [hkeyword]
  rfl

theorem mem_keyNames {n : String} {cs : List Char} :
    n ∈ keyNames cs ↔ n ≠ "" ∧ ∃ p ∈ pieces ',' cs, trim p = n.toList := by
  have hne : n ≠ "" ↔ n.toList ≠ [] := not_congr String.toList_eq_nil_iff.symm
  unfold keyNames
  simp only [List.mem_map, List.mem_filter, decide_eq_true_eq, hne]
  constructor
  · rintro ⟨_, ⟨⟨p, hp, rfl⟩, htrim⟩, rfl⟩
    rw [String.toList_ofList]
    exact ⟨htrim, p, hp, rfl⟩
  · rintro ⟨hn, p, hp, htrim⟩
    exact ⟨n.toList, ⟨⟨p, hp, htrim⟩, hn⟩, String.ofList_toList⟩

/-- a name without blanks is in the key of both texts -/
theorem mem_tableKey_squeeze {n : String} (hn : IsWordName n) (cs : List Char) :
    n ∈ tableKey (squeeze cs) ↔ n ∈ tableKey cs := by
  unfold tableKey
  rw [findFirst?_squeeze keyListAt?_blank blind_keyListAt?]
  cases findFirst? keyListAt? cs with
  | none => exact Iff.rfl
  | some names =>
    show n ∈ keyNames (squeeze names) ↔ n ∈ keyNames names
    have hsolid : ∀ c ∈ n.toList, isSpace c = false := fun c hc => isSpace_of_isWord (hn.2 c hc)
    rw [mem_keyNames, mem_keyNames, pieces_squeeze (by decide)]
    refine and_congr_right fun _ => ?_
    simp only [List.mem_map, exists_exists_and_eq_and, trim_squeeze, squeeze_eq_iff hsolid]

/-! ## blanks at the ends -/

theorem remark_newline : Remark ['\n'] := Remark.of_blanks (by decide)

/-- the reader does not see whether a break ends the text -/
structure EndBlind {α : Type} (read : List Char → Option α) : Prop where
  nil : read [] = none
  newline : ∀ cs, read (cs ++ ['\n']) = read cs

/-- neither does it for the search -/
theorem EndBlind.findFirst? {α : Type} {read : List Char → Option α} (hread : EndBlind read)
    (cs : List Char) : Text.findFirst? read (cs ++ ['\n']) = Text.findFirst? read cs := by
  induction cs with
  | nil =>
    have hbreak : read ['\n'] = none := (hread.newline []).trans hread.nil
    show (read ['\n']).or (read []) = read []
    rw [hbreak, Option.none_or]
  | cons c cs ih => rw [List.cons_append, findFirst?_cons, ih, ← List.cons_append, hread.newline,
      findFirst?_cons]

/-- a keyword, the blanks behind it and something else -/
theorem EndBlind.word {α : Type} {k : List Char} {read : List Char → Option α}
    (hread : EndBlind read) (hk : k ∈ openWords) (hne : k ≠ []) :
    EndBlind fun cs => ((keyword? k cs).bind blanks?).bind read where
  nil := by
    obtain ⟨c, k, rfl⟩ := List.exists_cons_of_ne_nil hne
    rfl
  newline cs := by
    rw [keyword?_apart (isLower_of_mem_openWords hk) remark_newline.apart]
    cases keyword? k cs with
    | none => rfl
    | some r =>
      have h := blanks?_bind_remark (w := ['\n']) (f := id) hread.nil hread.nil
        (fun s => by rw [hread.newline, Option.map_id_apply]) r
      rw [Option.map_id_apply] at h
      exact h

namespace TableName

theorem endBlind_ifNotExists? {read : List Char → Option TableName} (hread : EndBlind read) :
    EndBlind fun cs => (ifNotExists? cs).bind read := by
  simp only [ifNotExists?_eq, Option.bind_assoc]
  have h := ((hread.word (k := "exists".toList) (by decide) (by decide)).word
    (k := "not".toList) (by decide) (by decide)).word (k := "if".toList) (by decide) (by decide)
  simpa only [Option.bind_assoc] using h

theorem endBlind_headerAt? {read : List Char → Option TableName} (hread : EndBlind read) :
    EndBlind (headerAt? read) := by
  have hname : EndBlind fun cs => ((ifNotExists? cs).bind read).or (read cs) := by
    have hexists := endBlind_ifNotExists? hread
    refine ⟨?_, fun cs => ?_⟩
    · rw [hexists.nil, hread.nil]
      rfl
    · rw [hexists.newline, hread.newline]
  have h := (hname.word (k := "table".toList) (by decide) (by decide)).word
    (k := "create".toList) (by decide) (by decide)
  have heq : headerAt? read = fun cs => ((keyword? "create".toList cs).bind blanks?).bind fun r =>
      ((keyword? "table".toList r).bind blanks?).bind fun r =>
        ((ifNotExists? r).bind read).or (read r) := by
    funext cs
    rw [← Option.bind_assoc, ← createTable?_eq]
    rfl
  rw [heq]
  exact h

theorem ofText_newlines (cs : List Char) : ofText ('\n' :: cs ++ ['\n']) = ofText cs := by
  have hdotted : EndBlind dotted? := ⟨rfl, dotted?_apart remark_newline.apart⟩
  have hplain : EndBlind plain? := ⟨rfl, plain?_apart remark_newline.apart⟩
  rw [List.cons_append, ofText_newline]
  unfold ofText
  rw [(endBlind_headerAt? hdotted).findFirst?, (endBlind_headerAt? hplain).findFirst?]

end TableName

/-- a list without a closing parenthesis is none -/
theorem listText?_of_not_mem {cs : List Char} (h : ')' ∉ cs) : listText? cs = none := by
  unfold listText?
  cases hrun : run? (· ≠ ')') cs with
  | none => rfl
  | some x =>
    obtain ⟨hcat, -, -⟩ := run?_eq_append hrun
    have hnone : symbol? ')' x.2 = none := by
      rw [Option.eq_none_iff_forall_ne_some]
      intro r hr
      rw [hcat, symbol?_eq_some.mp hr] at h
      simp at h
    show (symbol? ')' x.2).bind _ = none
    rw [hnone]
    rfl

theorem endBlind_listText? : EndBlind listText? := by
  refine ⟨rfl, fun cs => ?_⟩
  by_cases hclose : ')' ∈ cs
  · unfold listText?
    rw [run?_append_of_mem (by decide) hclose]
    cases run? (· ≠ ')') cs with
    | none => rfl
    | some x =>
      show (symbol? ')' (x.2 ++ ['\n'])).bind _ = (symbol? ')' x.2).bind _
      rw [symbol?_apart (by decide) remark_newline.apart]
      cases symbol? ')' x.2 with
      | none => rfl
      | some r => rfl
  · rw [listText?_of_not_mem hclose, listText?_of_not_mem (by simp [hclose])]

theorem endBlind_keyListAt? : EndBlind keyListAt? := by
  refine ⟨rfl, fun cs => ?_⟩
  rw [keyListAt?_listText, keyListAt?_listText, primaryKey?_remark remark_newline]
  cases primaryKey? cs with
  | none => rfl
  | some r =>
    show (symbol? '(' (trimStart (r ++ ['\n']))).bind listText? =
      (symbol? '(' (trimStart r)).bind listText?
    rw [symbol?_remark (by decide) (by decide) remark_newline]
    cases symbol? '(' (trimStart r) with
    | none => rfl
    | some n => exact endBlind_listText?.newline n

theorem tableKey_newlines (cs : List Char) : tableKey ('\n' :: cs ++ ['\n']) = tableKey cs := by
  rw [List.cons_append, tableKey_newline]
  unfold tableKey
  rw [endBlind_keyListAt?.findFirst?]

/-! ## statements with the same filled lines -/

theorem Body.scan_filled (s : Body.Depth) (ls : List (List Char)) :
    Body.scan s (filled ls) = Body.scan s (ls.map trim) := by
  induction ls generalizing s with
  | nil => rfl
  | cons l ls ih =>
    rw [filled_cons, List.map_cons]
    by_cases h : trim l = []
    · rw [filled_of_blank h, List.nil_append, ih, h, Body.scan_idle s [] _ rfl]
    · rw [filled_of_ne h, List.singleton_append, Body.scan, Body.scan]
      simp only [ih]

theorem columnLines_eq (cs : List Char) :
    columnLines cs = (Body.scan {} (tidyLines cs)).filterMap ColumnLine.ofLine? := by
  unfold tidyLines
  rw [Body.scan_filled]
  rfl

section
variable {x y : List Char}

theorem squeeze_congr (h : tidyLines x = tidyLines y) :
    squeeze ('\n' :: x ++ ['\n']) = squeeze ('\n' :: y ++ ['\n']) := by
  rw [squeeze_tidyLines, h, ← squeeze_tidyLines]

theorem TableName.ofText_congr (h : tidyLines x = tidyLines y) : ofText x = ofText y := by
  rw [← ofText_newlines x, ← ofText_squeeze, squeeze_congr h, ofText_squeeze, ofText_newlines]

theorem mem_tableKey_congr (h : tidyLines x = tidyLines y) {n : String} (hn : IsWordName n) :
    n ∈ tableKey x ↔ n ∈ tableKey y := by
  rw [← tableKey_newlines x, ← mem_tableKey_squeeze hn, squeeze_congr h, mem_tableKey_squeeze hn,
    tableKey_newlines]

theorem keyFlags_congr (h : tidyLines x = tidyLines y) : keyFlags x = keyFlags y := by
  have hlines : columnLines x = columnLines y := by rw [columnLines_eq, columnLines_eq, h]
  have hkept : keptLines x = keptLines y := congrArg (fun ls => (splitRepeated [] ls).1) hlines
  unfold keyFlags
  rw [hkept]
  refine List.map_congr_left fun l hl => ?_
  rw [keptLines_eq] at hl
  have hword := isWordName_of_mem_columnLines (firsts_subset hl)
  have hcontains : (tableKey x).contains l.name = (tableKey y).contains l.name := by
    rw [Bool.eq_iff_iff, List.contains_iff_mem, List.contains_iff_mem]
    exact mem_tableKey_congr h hword
  unfold isKeyLine
  rw [hcontains]

end

theorem ofDdl_congr {rules : Rules} {x y : String}
    (h : tidyLines (unquoted x) = tidyLines (unquoted y)) :
    Table.ofDdl rules x = Table.ofDdl rules y := by
  have hlines : columnLines (unquoted y) = columnLines (unquoted x) := by
    rw [columnLines_eq, columnLines_eq, h]
  refine (ofDdl_eq_iff ?_).mpr (Or.inr ⟨TableName.ofText_congr h, keyFlags_congr h⟩)
  rw [hlines]
  exact List.forall₂_same.mpr fun l _ => SameDeclaration.refl l

/-! ## the result -/

/-- the statement of the trimmed lines, without the blank ones -/
def tidy (ddl : String) : String := written (tidyLines ddl.toList)

theorem trim_bare_trim (l : List Char) : trim (bare (trim l)) = trim (bare l) := by
  obtain ⟨ws, hl, hws⟩ := exists_blanks_append_trimStart l
  obtain ⟨vs, ht, hvs⟩ := exists_trimEnd_append_blanks (trimStart l)
  have hbare : bare l = bare ws ++ (bare (trim l) ++ bare vs) := by
    conv => lhs; rw [hl, ht]
    unfold bare
    rw [List.filter_append, List.filter_append]
    rfl
  have hblank : ∀ {us}, (∀ c ∈ us, isSpace c = true) → ∀ c ∈ bare us, isSpace c = true :=
    fun h c hc => h c (List.mem_filter.mp hc).1
  have hstart : trim (bare ws ++ (bare (trim l) ++ bare vs)) = trim (bare (trim l) ++ bare vs) :=
    congrArg trimEnd (trimStart_blanks_append (hblank hws) _)
  rw [hbare, hstart, trim_append_blanks _ (hblank hvs)]

theorem tidyLines_bare (cs : List Char) : tidyLines (bare cs) = filled ((lines cs).map bare) := by
  have hbare : ∀ {l}, NoBreak l → NoBreak (bare l) := fun h => h.filter _
  induction cs using line_induction with
  | line l hl => rw [tidyLines_of_noBreak (hbare hl), filled_map_lines rfl hl]
  | step l c cs hl hc ih =>
    have hquote : c ≠ '"' := by
      rintro rfl
      cases hc
    have hcat : bare (l ++ c :: cs) = bare l ++ c :: bare cs := by
      unfold bare
      rw [List.filter_append, List.filter_cons_of_pos (by simpa using hquote)]
    rw [hcat, tidyLines_append (hbare hl) hc, ih, filled_map_lines_append rfl hl hc]

/-- lines with the blanks behind them, and a last line, behind some blanks -/
def laidOut (front : List Char) (rows : List (List Char × List Char)) (last : List Char) : String :=
  String.ofList (front ++ (rows.flatMap (fun r => r.1 ++ r.2) ++ last))

theorem tidyLines_unquoted_tidy (ddl : String) :
    tidyLines (unquoted (tidy ddl)) = tidyLines (unquoted ddl) := by
  have hbreak : ∀ l ∈ (tidyLines ddl.toList).map bare, NoBreak l := by
    intro l hl
    obtain ⟨m, hm, rfl⟩ := List.mem_map.mp hl
    exact (noBreak_of_mem_tidyLines _ m hm).filter _
  have htidy : tidyLines (unquoted ddl) = tidyLines (bare ddl.toList) := rfl
  unfold tidy
  rw [unquoted_written, tidyLines_joined hbreak, htidy, tidyLines_bare]
  exact filled_map_filled rfl trim_bare_trim _

/-- **The layout of a statement does not matter beyond its line breaks.**  Trimming its lines and
leaving out the blank ones changes nothing.  So it gives the same whichever breaks its lines have,
and whichever blanks and blank lines stand around them. -/
theorem ofDdl_tidy (rules : Rules) :
    (∀ ddl, Table.ofDdl rules (tidy ddl) = Table.ofDdl rules ddl) ∧
    ∀ front rows last, (∀ c ∈ front, isSpace c = true) →
      (∀ r ∈ rows, NoBreak r.1 ∧ Gap r.2) → NoBreak last →
      Table.ofDdl rules (laidOut front rows last) =
        Table.ofDdl rules (written (rows.map (·.1) ++ [last])) := by
  have htidy : ∀ ddl, Table.ofDdl rules (tidy ddl) = Table.ofDdl rules ddl :=
    fun ddl => ofDdl_congr (tidyLines_unquoted_tidy ddl)
  refine ⟨htidy, fun front rows last hfront hrows hlast => ?_⟩
  have hbreak : ∀ l ∈ rows.map (·.1) ++ [last], NoBreak l := by
    intro l hl
    rcases List.mem_append.mp hl with hl | hl
    · obtain ⟨r, hr, rfl⟩ := List.mem_map.mp hl
      exact (hrows r hr).1
    · rw [List.mem_singleton.mp hl]
      exact hlast
  have hlines : tidy (laidOut front rows last) = tidy (written (rows.map (·.1) ++ [last])) := by
    unfold tidy laidOut written
    rw [String.toList_ofList, String.toList_ofList, tidyLines_blanks_append hfront,
      tidyLines_rows hrows hlast, tidyLines_joined hbreak]
  rw [← htidy, hlines, htidy]

/-- lines with a return, a line separator and a vertical tab behind them -/
def gapRows : List (List Char × List Char) :=
  [("CREATE TABLE T (".toList, "\r\n\r\n  ".toList), ("A NUMBER(3),".toList, " \u2028".toList),
    ("B CHAR(2), PRIMARY KEY (A)".toList, "\x0b\t".toList)]

theorem ofDdl_tidy_gaps :
    Table.ofDdl {} (laidOut ['\t'] gapRows [')']) =
        Table.ofDdl {} (written (gapRows.map (·.1) ++ [[')']])) ∧
      (Table.ofDdl {} (laidOut ['\t'] gapRows [')'])).map (·.columns.map (·.name)) =
        .ok ["A", "B"] := by
  have hrows : ∀ r ∈ gapRows, NoBreak r.1 ∧ Gap r.2 := by decide
  exact ⟨(ofDdl_tidy {}).2 ['\t'] gapRows [')'] (by decide) hrows (by decide), by decide +kernel⟩

end DdlToJava.Ddl
