import DdlToJava.Proofs.Ddl.Followed

/-!
# Headers with `IF NOT EXISTS`

A `Guard` is `CREATE TABLE IF NOT EXISTS` as it stands in a text, in any case and with any white
space.  In a text with one `CREATE TABLE`, the one of the guard, the table is named by what comes
right after:

* a word, a point and a word name the schema and the table;
* a word alone names the table;
* when no word comes there, the reader goes back behind `CREATE TABLE`, and `IF` is the name.

So the words of the guard are no name exactly when a name follows them (`named_behind_guard`).
-/

namespace DdlToJava.Ddl

open Text TableName

/-! ## the text of a guard -/

/-- a keyword as it is spelled in a text -/
structure Spelled (keyword : String) where
  chars : List Char
  folds : chars.map foldLetter = keyword.toList

/-- white space between two words -/
structure Blanks where
  chars : List Char
  isRun : IsRun isSpace chars

structure Guard where
  create : Spelled "create"
  afterCreate : Blanks
  table : Spelled "table"
  afterTable : Blanks
  ifWord : Spelled "if"
  afterIf : Blanks
  notWord : Spelled "not"
  afterNot : Blanks
  existsWord : Spelled "exists"
  afterExists : Blanks

/-- the guard behind its `CREATE TABLE`, with `x` behind it -/
def Guard.condition (g : Guard) (x : List Char) : List Char :=
  g.ifWord.chars ++ (g.afterIf.chars ++ (g.notWord.chars ++ (g.afterNot.chars ++
    (g.existsWord.chars ++ (g.afterExists.chars ++ x)))))

/-- the guard with `x` behind it -/
def Guard.front (g : Guard) (x : List Char) : List Char :=
  g.create.chars ++ (g.afterCreate.chars ++ (g.table.chars ++ (g.afterTable.chars ++
    g.condition x)))

/-- `CREATE TABLE` stands at the front -/
def OpensTable (s : List Char) : Prop :=
  ∃ (create : Spelled "create") (gap : Blanks) (table : Spelled "table") (r : List Char),
    s = create.chars ++ (gap.chars ++ (table.chars ++ r))

/-- the text begins with something other than white space -/
def Flush (x : List Char) : Prop := ∀ c, x.head? = some c → isSpace c = false

theorem Flush.cons {c : Char} (h : isSpace c = false) (x : List Char) : Flush (c :: x) := by
  intro d hd
  cases hd
  exact h

section
variable {keyword : String} {x : List Char}

theorem Spelled.isRun (w : Spelled keyword) (hk : ∀ k ∈ keyword.toList, k.isLower = true)
    (hne : keyword.toList ≠ []) : IsRun isWord w.chars where
  ne := by
    intro h
    apply hne
    rw [← w.folds, h]
    rfl
  all := by
    intro c hc
    apply isWord_of_foldLetter
    apply hk
    rw [← w.folds]
    exact List.mem_map_of_mem hc

theorem Spelled.flush (w : Spelled keyword) (hk : ∀ k ∈ keyword.toList, k.isLower = true)
    (hne : keyword.toList ≠ []) (x : List Char) : Flush (w.chars ++ x) :=
  fun _ hc => isSpace_of_isWord ((w.isRun hk hne).head hc)

theorem Blanks.apart (b : Blanks) (x : List Char) : Apart (b.chars ++ x) :=
  fun _ hc => b.isRun.head hc

theorem Blanks.blanks? (b : Blanks) (hx : Flush x) : Text.blanks? (b.chars ++ x) = some x := by
  rw [blanks?_append b.isRun, trimStart_of_head hx]

/-- a keyword with its white space, in front of a text that begins with something else -/
theorem keyword?_blanks?_spelled (w : Spelled keyword) (b : Blanks) (hx : Flush x) :
    (keyword? keyword.toList (w.chars ++ (b.chars ++ x))).bind blanks? = some x := by
  rw [keyword?_eq_some.mpr ⟨w.chars, rfl, w.folds⟩]
  exact b.blanks? hx

end

namespace Guard

variable (g : Guard) {x : List Char}

theorem flush_condition (x : List Char) : Flush (g.condition x) :=
  g.ifWord.flush (by decide) (by decide) _

theorem createTable?_front (x : List Char) : createTable? (g.front x) = some (g.condition x) := by
  unfold Guard.front
  rw [createTable?_eq,
    keyword?_blanks?_spelled g.create _ (g.table.flush (by decide) (by decide) _)]
  exact keyword?_blanks?_spelled g.table _ (g.flush_condition x)

theorem ifNotExists?_condition (hx : Flush x) : ifNotExists? (g.condition x) = some x := by
  unfold Guard.condition
  rw [ifNotExists?_eq,
    keyword?_blanks?_spelled g.ifWord _ (g.notWord.flush (by decide) (by decide) _)]
  show ((keyword? "not".toList _).bind blanks?).bind _ = some x
  rw [keyword?_blanks?_spelled g.notWord _ (g.existsWord.flush (by decide) (by decide) _)]
  exact keyword?_blanks?_spelled g.existsWord _ hx

/-- without the guard's words there is no name with a schema, as white space follows `IF` -/
theorem dotted?_condition (hx : Flush x) : dotted? (g.condition x) = none := by
  cases h : dotted? (g.condition x) with
  | none => rfl
  | some n =>
    have hnone := ifNotExists?_of_dotted? h
    rw [g.ifNotExists?_condition hx] at hnone
    cases hnone

/-- but there is a name without one, which is `IF` -/
theorem plain?_condition (x : List Char) :
    plain? (g.condition x) = some { name := String.ofList g.ifWord.chars } := by
  have hword : word? (g.condition x) = some (g.ifWord.chars, _) :=
    run?_eq_some_iff.mpr ⟨rfl, g.ifWord.isRun (by decide) (by decide), (g.afterIf.apart _).endsWord⟩
  unfold plain?
  rw [hword]
  rfl

theorem headerAt?_front (read : List Char → Option TableName) (hx : Flush x) :
    headerAt? read (g.front x) = (read x).or (read (g.condition x)) := by
  show (createTable? (g.front x)).bind _ = _
  rw [g.createTable?_front]
  show ((ifNotExists? (g.condition x)).bind read).or (read (g.condition x)) = _
  rw [g.ifNotExists?_condition hx]
  rfl

end Guard

/-! ## the only header of a text -/

theorem opensTable_iff {s : List Char} : OpensTable s ↔
    (((keyword? "create".toList s).bind blanks?).bind (keyword? "table".toList)).isSome = true := by
  constructor
  · rintro ⟨create, gap, table, r, rfl⟩
    rw [keyword?_blanks?_spelled create gap (table.flush (by decide) (by decide) r)]
    show (keyword? "table".toList (table.chars ++ r)).isSome = true
    rw [keyword?_eq_some.mpr ⟨table.chars, rfl, table.folds⟩]
    rfl
  · intro h
    obtain ⟨r, h⟩ := Option.isSome_iff_exists.mp h
    obtain ⟨z, hz, hr⟩ := Option.bind_eq_some_iff.mp h
    obtain ⟨y, hy, hgap⟩ := Option.bind_eq_some_iff.mp hz
    obtain ⟨create, rfl, hcreate⟩ := keyword?_eq_some.mp hy
    obtain ⟨gap, hrun, rfl⟩ := exists_run_of_blanks? hgap
    obtain ⟨table, rfl, htable⟩ := keyword?_eq_some.mp hr
    exact ⟨⟨create, hcreate⟩, ⟨gap, hrun⟩, ⟨table, htable⟩, r, rfl⟩

instance (s : List Char) : Decidable (OpensTable s) := decidable_of_iff _ opensTable_iff.symm

theorem opensTable_of_headerAt? {read : List Char → Option TableName} {s : List Char}
    {n : TableName} (h : headerAt? read s = some n) : OpensTable s := by
  obtain ⟨r, hr, _⟩ := headerAt?_eq_some h
  rw [createTable?_eq] at hr
  obtain ⟨z, hz, hr⟩ := Option.bind_eq_some_iff.mp hr
  obtain ⟨y, hy, _⟩ := Option.bind_eq_some_iff.mp hr
  rw [opensTable_iff, hz, Option.bind_some, hy]
  rfl

theorem Guard.opensTable (g : Guard) (x : List Char) : OpensTable (g.front x) :=
  ⟨g.create, g.afterCreate, g.table, _, rfl⟩

section
variable {g : Guard} {before x : List Char}

/-- where a header can stand at one place only, the header is what is read there -/
theorem findFirst?_header (hone : ∃! s, s <:+ before ++ g.front x ∧ OpensTable s)
    (read : List Char → Option TableName) :
    findFirst? (headerAt? read) (before ++ g.front x) = headerAt? read (g.front x) := by
  apply findFirst?_of_only (List.suffix_append before (g.front x))
  intro s hs hne
  cases h : headerAt? read s with
  | none => rfl
  | some n =>
    exact absurd (hone.unique ⟨hs, opensTable_of_headerAt? h⟩
      ⟨List.suffix_append .., g.opensTable x⟩) hne

/-- the table is named by what follows the guard, and by the guard's own `IF` if there is nothing -/
theorem ofText_guarded (hone : ∃! s, s <:+ before ++ g.front x ∧ OpensTable s) (hx : Flush x) :
    ofText (before ++ g.front x) =
      ((dotted? x).or (plain? x)).getD { name := String.ofList g.ifWord.chars } := by
  unfold ofText
  rw [findFirst?_header hone, findFirst?_header hone, g.headerAt?_front _ hx,
    g.headerAt?_front _ hx, g.dotted?_condition hx, g.plain?_condition, Option.or_none]
  cases dotted? x with
  | some n => rfl
  | none =>
    cases plain? x with
    | some n => rfl
    | none => rfl

end

/-! ## what follows the guard -/

/-- a whole word with `z` behind it -/
structure WholeWord (w z : List Char) : Prop where
  word : IsRun isWord w
  ends : EndsWord z

theorem WholeWord.read {w z : List Char} (h : WholeWord w z) : word? (w ++ z) = some (w, z) :=
  run?_eq_some_iff.mpr ⟨rfl, h.word, h.ends⟩

theorem dotted?_words {s t z : List Char} (hs : WholeWord s ('.' :: (t ++ z)))
    (ht : WholeWord t z) :
    dotted? (s ++ '.' :: (t ++ z)) = some ⟨String.ofList s, String.ofList t⟩ := by
  unfold dotted?
  rw [hs.read]
  show (word? (t ++ z)).bind _ = _
  rw [ht.read]
  rfl

theorem plain?_word {t z : List Char} (ht : WholeWord t z) :
    plain? (t ++ z) = some { name := String.ofList t } := by
  unfold plain?
  rw [ht.read]
  rfl

/-- no schema is read where no point with a word behind it follows -/
theorem dotted?_word {t z : List Char} (ht : WholeWord t z)
    (hz : ∀ r, z = '.' :: r → EndsWord r) : dotted? (t ++ z) = none := by
  unfold dotted?
  rw [ht.read]
  show (symbol? '.' z).bind _ = none
  cases h : symbol? '.' z with
  | none => rfl
  | some r =>
    have hnone : word? r = none := run?_eq_none (hz r (symbol?_eq_some.mp h))
    show (word? r).bind _ = none
    rw [hnone]
    rfl

theorem dotted?_of_endsWord {x : List Char} (h : EndsWord x) : dotted? x = none := by
  have hword : word? x = none := run?_eq_none h
  unfold dotted?
  rw [hword]
  rfl

theorem plain?_of_endsWord {x : List Char} (h : EndsWord x) : plain? x = none := by
  have hword : word? x = none := run?_eq_none h
  unfold plain?
  rw [hword]
  rfl

/-- the name that the guard gives is not the one of a table without a name -/
theorem Guard.ifName_ne_unknown (g : Guard) :
    ({ name := String.ofList g.ifWord.chars } : TableName) ≠ {} := by
  intro h
  have hname : String.ofList g.ifWord.chars = unknownTable := congrArg TableName.name h
  have hchars : g.ifWord.chars = unknownTable.toList := by rw [← hname, String.toList_ofList]
  have hfolds := g.ifWord.folds
  rw [hchars] at hfolds
  revert hfolds
  decide

/-! ## the name -/

theorem unquoted_of_not_mem {ddl : String} (h : '"' ∉ ddl.toList) :
    unquoted ddl = ddl.toList := by
  apply List.filter_eq_self.mpr
  intro c hc
  apply decide_eq_true
  rintro rfl
  exact h hc

/-- the statement names its table `n`: by its header, and in the table that is read from it -/
def NamesTable (rules : Rules) (ddl : String) (n : TableName) : Prop :=
  ofText (unquoted ddl) = n ∧
    ∀ t, Table.ofDdl rules ddl = .ok t → t.schema = n.schema ∧ t.name = n.name

theorem namesTable_iff {rules : Rules} {ddl : String} {n : TableName} :
    NamesTable rules ddl n ↔ ofText (unquoted ddl) = n := by
  constructor
  · exact fun h => h.1
  · rintro rfl
    refine ⟨rfl, fun t ht => ?_⟩
    obtain ⟨hschema, hname, _⟩ := ofDdl_eq_ok.mp ht
    exact ⟨hschema, hname⟩

/-- **The words of a guard are a name only if no name follows them.** -/
theorem named_behind_guard (rules : Rules) {ddl : String} (hquote : '"' ∉ ddl.toList) {g : Guard}
    {before x : List Char} (hddl : ddl.toList = before ++ g.front x) (hx : Flush x)
    (hone : ∃! s, s <:+ ddl.toList ∧ OpensTable s) :
    (∀ s t z, WholeWord s ('.' :: (t ++ z)) → WholeWord t z → x = s ++ '.' :: (t ++ z) →
      NamesTable rules ddl ⟨String.ofList s, String.ofList t⟩) ∧
    (∀ t z, WholeWord t z → (∀ r, z = '.' :: r → EndsWord r) → x = t ++ z →
      NamesTable rules ddl { name := String.ofList t }) ∧
    (EndsWord x → NamesTable rules ddl { name := String.ofList g.ifWord.chars } ∧
      ¬ NamesTable rules ddl {}) := by
  have hbare : unquoted ddl = before ++ g.front x := by rw [unquoted_of_not_mem hquote, hddl]
  rw [hddl] at hone
  have htext := ofText_guarded hone hx
  rw [← hbare] at htext
  simp only [namesTable_iff, htext]
  refine ⟨?_, ?_, ?_⟩
  · rintro s t z hs ht rfl
    rw [dotted?_words hs ht]
    rfl
  · rintro t z ht hz rfl
    rw [dotted?_word ht hz, plain?_word ht]
    rfl
  · intro hend
    rw [dotted?_of_endsWord hend, plain?_of_endsWord hend]
    exact ⟨rfl, g.ifName_ne_unknown⟩

/-- a guard in two lines and two cases -/
def smallGuard : Guard where
  create := ⟨"Create".toList, by decide⟩
  afterCreate := ⟨[' '], ⟨by decide, by decide⟩⟩
  table := ⟨"TABLE".toList, by decide⟩
  afterTable := ⟨['\n', '\t'], ⟨by decide, by decide⟩⟩
  ifWord := ⟨"if".toList, by decide⟩
  afterIf := ⟨[' '], ⟨by decide, by decide⟩⟩
  notWord := ⟨"Not".toList, by decide⟩
  afterNot := ⟨[' '], ⟨by decide, by decide⟩⟩
  existsWord := ⟨"EXISTS".toList, by decide⟩
  afterExists := ⟨[' ', ' '], ⟨by decide, by decide⟩⟩

/-- a comment, the guard, and `x` behind it -/
def guardedBy (x : List Char) : String :=
  String.ofList ("-- create\n".toList ++ smallGuard.front x)

theorem toList_guardedBy (x : List Char) :
    (guardedBy x).toList = "-- create\n".toList ++ smallGuard.front x := String.toList_ofList

theorem only_smallGuard {x : List Char}
    (h : ∀ s ∈ ("-- create\n".toList ++ smallGuard.front x).tails, OpensTable s →
      s = smallGuard.front x) : ∃! s, s <:+ (guardedBy x).toList ∧ OpensTable s := by
  rw [toList_guardedBy]
  refine ⟨smallGuard.front x, ⟨List.suffix_append .., smallGuard.opensTable x⟩, ?_⟩
  rintro s ⟨hs, hopens⟩
  exact h s ((List.mem_tails _ _).mpr hs) hopens

theorem named_behind_guard_small :
    NamesTable {} (guardedBy "S.T (\nA INT\n)".toList) ⟨"S", "T"⟩ ∧
    NamesTable {} (guardedBy "[S].[T] (\nA INT\n)".toList) ⟨"dbo", "if"⟩ ∧
    ¬ NamesTable {} (guardedBy "[S].[T] (\nA INT\n)".toList) {} :=
  ⟨(named_behind_guard {} (by decide) (toList_guardedBy _) (Flush.cons (by decide) _)
      (only_smallGuard (by decide))).1 ['S'] ['T'] " (\nA INT\n)".toList
      ⟨⟨by decide, by decide⟩, EndsWord.cons (by decide) _⟩
      ⟨⟨by decide, by decide⟩, EndsWord.cons (by decide) _⟩ rfl,
    (named_behind_guard {} (by decide) (toList_guardedBy _) (Flush.cons (by decide) _)
      (only_smallGuard (by decide))).2.2 (EndsWord.cons (by decide) _)⟩

end DdlToJava.Ddl
