import DdlToJava.Proofs.Ddl.Settled
import DdlToJava.Proofs.Ddl.Tidy

/-!
# What follows a complete statement

A text is `Complete` when it holds a header with a schema and a key clause and the scan of its lines
ends with the body closed.  Whatever follows it on the next lines then changes nothing
(`ofDdl_followed`).

The columns are the easy part, as the scan stops in the text (`columnLines_followed`).  The header
and the key clause are searched for, and there a place that the search has passed could become a
match when more text follows.  A reader that runs into what follows has to pass the header (or the
clause) that the search finds later, and no reader passes it: its first letter is in no keyword
behind the first letter of the reader's own (`suffix_of_keyword?`).  So such a reader stops where
it stopped before (`headerAt?_passed`, `keyListAt?_passed`).
-/

namespace DdlToJava.Ddl

open Text Body

/-! ## readers in front of a keyword -/

/-- a letter that counts as `k` stands at the front -/
def StartsWith (k : Char) (m : List Char) : Prop := ∃ c r, m = c :: r ∧ foldLetter c = k

theorem startsWith_of_keyword? {k : Char} {ks m r : List Char}
    (h : keyword? (k :: ks) m = some r) : StartsWith k m := by
  obtain ⟨w, rfl, hw⟩ := keyword?_eq_some.mp h
  obtain ⟨c, w, rfl⟩ := List.exists_cons_of_ne_nil (l := w) (by rintro rfl; cases hw)
  exact ⟨c, w ++ r, rfl, (List.cons.inj hw).1⟩

section
variable {k : Char} {m s r w : List Char}

/-- a keyword without the letter `k` ends in front of it -/
theorem suffix_of_keyword? (hm : StartsWith k m) {ks : List Char} (hks : k ∉ ks) (hs : m <:+ s)
    (h : keyword? ks s = some r) : m <:+ r := by
  induction ks generalizing s with
  | nil =>
    rw [keyword?_nil] at h
    cases h
    exact hs
  | cons j ks ih =>
    cases s with
    | nil => cases h
    | cons d s =>
      unfold keyword? at h
      split at h
      · next hd =>
        rcases List.suffix_cons_iff.mp hs with rfl | hs
        · obtain ⟨c, t, ht, hc⟩ := hm
          obtain ⟨rfl, rfl⟩ := List.cons.inj ht
          apply absurd _ hks
          rw [← hc, hd]
          exact List.mem_cons_self ..
        · exact ih (fun hk => hks (List.mem_cons_of_mem j hk)) hs h
      · cases h

/-- the keyword may begin with the letter itself if it begins in front of the place -/
theorem suffix_of_keyword?_cons (hm : StartsWith k m) {j : Char} {ks : List Char} (hks : k ∉ ks)
    {d : Char} (hs : m <:+ s) (h : keyword? (j :: ks) (d :: s) = some r) : m <:+ r := by
  unfold keyword? at h
  split at h
  · exact suffix_of_keyword? hm hks hs h
  · cases h

theorem isSpace_of_startsWith (hk : k.isLower = true) {c : Char} (hc : foldLetter c = k) :
    isSpace c = false := isSpace_of_isWord (isWord_of_foldLetter (hc ▸ hk))

theorem suffix_trimStart (hm : StartsWith k m) (hk : k.isLower = true) (hs : m <:+ s) :
    m <:+ trimStart s := by
  induction s with
  | nil =>
    obtain ⟨c, t, rfl, _⟩ := hm
    cases List.suffix_nil.mp hs
  | cons d s ih =>
    rw [trimStart_cons]
    split
    · next hd =>
      rcases List.suffix_cons_iff.mp hs with rfl | hs
      · obtain ⟨c, t, ht, hc⟩ := hm
        obtain ⟨rfl, rfl⟩ := List.cons.inj ht
        rw [isSpace_of_startsWith hk hc] at hd
        cases hd
      · exact ih hs
    · exact hs

theorem trimStart_ne_nil_of_suffix (hm : StartsWith k m) (hk : k.isLower = true) (hs : m <:+ s) :
    trimStart s ≠ [] := by
  intro h
  have hnil := suffix_trimStart hm hk hs
  rw [h] at hnil
  obtain ⟨c, t, rfl, _⟩ := hm
  cases List.suffix_nil.mp hnil

theorem suffix_blanks? (hm : StartsWith k m) (hk : k.isLower = true) (hs : m <:+ s)
    (h : blanks? s = some r) : m <:+ r := by
  obtain ⟨_, rfl⟩ := blanks?_eq_some.mp h
  exact suffix_trimStart hm hk hs

/-- a reader of a keyword and blanks, and then of something that reads the same with `w` behind it
as long as `m` is still ahead -/
theorem bind_ahead {α : Type} (hm : StartsWith k m) (hk : k.isLower = true) (hw : Apart w)
    {j : List Char} (hj : j ∈ openWords) (hpass : ∀ r, keyword? j s = some r → m <:+ r)
    {read : List Char → Option α} (hread : ∀ r, m <:+ r → read (r ++ w) = read r) :
    ((keyword? j (s ++ w)).bind blanks?).bind read =
      ((keyword? j s).bind blanks?).bind read := by
  rw [keyword?_apart (isLower_of_mem_openWords hj) hw]
  cases h : keyword? j s with
  | none => rfl
  | some r =>
    show (blanks? (r ++ w)).bind read = (blanks? r).bind read
    rw [blanks?_apart (trimStart_ne_nil_of_suffix hm hk (hpass r h))]
    cases hr : blanks? r with
    | none => rfl
    | some t => exact hread t (suffix_blanks? hm hk (hpass r h) hr)

end

/-! ## the header -/

namespace TableName

section
variable {m s w : List Char} {read : List Char → Option TableName}

theorem createTable?_bind (cs : List Char) (read : List Char → Option TableName) :
    (createTable? cs).bind read = ((keyword? "create".toList cs).bind blanks?).bind fun r =>
      ((keyword? "table".toList r).bind blanks?).bind read := by
  rw [createTable?_eq, Option.bind_assoc]

theorem ifNotExists?_bind (cs : List Char) (read : List Char → Option TableName) :
    (ifNotExists? cs).bind read = ((keyword? "if".toList cs).bind blanks?).bind fun r =>
      ((keyword? "not".toList r).bind blanks?).bind fun r =>
        ((keyword? "exists".toList r).bind blanks?).bind read := by
  rw [ifNotExists?_eq, Option.bind_assoc]
  refine congrArg _ (funext fun r => ?_)
  rw [Option.bind_assoc]

theorem ifNotExists?_ahead (hm : StartsWith 'c' m) (hw : Apart w)
    (hread : ∀ cs, read (cs ++ w) = read cs) (hs : m <:+ s) :
    (ifNotExists? (s ++ w)).bind read = (ifNotExists? s).bind read := by
  rw [ifNotExists?_bind, ifNotExists?_bind]
  apply bind_ahead hm rfl hw (by decide) fun r => suffix_of_keyword? hm (by decide) hs
  intro r hr
  apply bind_ahead hm rfl hw (by decide) fun t => suffix_of_keyword? hm (by decide) hr
  intro t ht
  apply bind_ahead hm rfl hw (by decide) fun z => suffix_of_keyword? hm (by decide) ht
  exact fun z _ => hread z

/-- a header reader in front of another header does not see what follows that one -/
theorem headerAt?_passed (hm : StartsWith 'c' m) (hw : Apart w)
    (hread : ∀ cs, read (cs ++ w) = read cs) (hs : m <:+ s) (c : Char) :
    headerAt? read (c :: s ++ w) = headerAt? read (c :: s) := by
  show (createTable? (c :: s ++ w)).bind _ = (createTable? (c :: s)).bind _
  rw [createTable?_bind, createTable?_bind]
  apply bind_ahead hm rfl hw (by decide) fun r => suffix_of_keyword?_cons hm (by decide) hs
  intro r hr
  apply bind_ahead hm rfl hw (by decide) fun t => suffix_of_keyword? hm (by decide) hr
  intro t ht
  rw [ifNotExists?_ahead hm hw hread ht, hread]

/-- a keyword and blanks that something comes after -/
theorem keyword?_blanks?_append {j r : List Char} (h : (keyword? j s).bind blanks? = some r)
    (hr : r ≠ []) (w : List Char) : (keyword? j (s ++ w)).bind blanks? = some (r ++ w) := by
  obtain ⟨t, ht, hb⟩ := Option.bind_eq_some_iff.mp h
  have htrim : r = trimStart t := (blanks?_eq_some.mp hb).2
  rw [keyword?_append ht w]
  show blanks? (t ++ w) = some (r ++ w)
  rw [blanks?_apart (htrim ▸ hr), hb]
  rfl

theorem createTable?_found {r : List Char} (h : createTable? s = some r) (hr : r ≠ [])
    (w : List Char) : createTable? (s ++ w) = some (r ++ w) := by
  rw [createTable?_eq] at h ⊢
  obtain ⟨t, ht, hb⟩ := Option.bind_eq_some_iff.mp h
  have hne : t ≠ [] := by
    rintro rfl
    cases hb
  rw [keyword?_blanks?_append ht hne]
  exact keyword?_blanks?_append hb hr w

theorem ifNotExists?_found {r : List Char} (h : ifNotExists? s = some r) (hr : r ≠ [])
    (w : List Char) : ifNotExists? (s ++ w) = some (r ++ w) := by
  rw [ifNotExists?_eq] at h ⊢
  obtain ⟨t, ht, hb⟩ := Option.bind_eq_some_iff.mp h
  obtain ⟨z, hz, hb⟩ := Option.bind_eq_some_iff.mp hb
  have hzne : z ≠ [] := by
    rintro rfl
    cases hb
  have htne : t ≠ [] := by
    rintro rfl
    cases hz
  rw [keyword?_blanks?_append ht htne]
  show ((keyword? "not".toList (t ++ w)).bind blanks?).bind _ = some (r ++ w)
  rw [keyword?_blanks?_append hz hzne]
  exact keyword?_blanks?_append hb hr w

/-- a name with its point is no `IF NOT EXISTS`, as a point stands behind its first word -/
theorem ifNotExists?_of_dotted? {n : TableName} (h : dotted? s = some n) :
    ifNotExists? s = none := by
  obtain ⟨⟨v, r⟩, hv, h⟩ := Option.bind_eq_some_iff.mp h
  obtain ⟨t, ht, _⟩ := Option.bind_eq_some_iff.mp h
  obtain ⟨hs, _, hall⟩ := run?_eq_append hv
  have hr : r = '.' :: t := symbol?_eq_some.mp ht
  cases hi : ifNotExists? s with
  | none => rfl
  | some z =>
    rw [ifNotExists?_eq] at hi
    obtain ⟨y, hy, _⟩ := Option.bind_eq_some_iff.mp hi
    rw [hs, hr] at hy
    have hpoint := (keyword?_blanks?_word (by decide) hall (EndsWord.cons (by decide) t) hy).2
    cases hpoint

theorem ne_nil_of_dotted? {n : TableName} (h : dotted? s = some n) : s ≠ [] := by
  rintro rfl
  cases h

/-- a header with a schema is read whatever follows its line -/
theorem headerAt?_found (hw : Apart w) {n : TableName} (h : headerAt? dotted? s = some n) :
    headerAt? dotted? (s ++ w) = some n := by
  obtain ⟨r, hr, h⟩ := headerAt?_eq_some h
  have hne : r ≠ [] := by
    rintro rfl
    rcases h with ⟨r', hr', _⟩ | h
    · cases hr'
    · cases h
  show (createTable? (s ++ w)).bind _ = some n
  rw [createTable?_found hr hne]
  show ((ifNotExists? (r ++ w)).bind dotted?).or (dotted? (r ++ w)) = some n
  rcases h with ⟨r', hr', h⟩ | h
  · rw [ifNotExists?_found hr' (ne_nil_of_dotted? h)]
    show (dotted? (r' ++ w)).or _ = some n
    rw [dotted?_apart hw, h, Option.some_or]
  · have hd : dotted? (r ++ w) = some n := by rw [dotted?_apart hw, h]
    rw [ifNotExists?_of_dotted? hd, hd]
    rfl

theorem startsWith_of_headerAt? (h : (headerAt? read m).isSome = true) : StartsWith 'c' m := by
  obtain ⟨n, hn⟩ := Option.isSome_iff_exists.mp h
  obtain ⟨r, hr, _⟩ := headerAt?_eq_some hn
  obtain ⟨t, ht, _⟩ := Option.bind_eq_some_iff.mp hr
  exact startsWith_of_keyword? ht

/-- a text that holds a header with a schema names its table, whatever follows it -/
theorem ofText_followed (hw : Apart w) (h : (findFirst? (headerAt? dotted?) s).isSome = true) :
    ofText (s ++ w) = ofText s := by
  obtain ⟨n, hn⟩ := Option.isSome_iff_exists.mp h
  have happ : findFirst? (headerAt? dotted?) (s ++ w) = some n := by
    apply findFirst?_append_of_some (fun s n => headerAt?_found hw) _ hn
    intro c t m hm hh hnone
    rw [headerAt?_passed (startsWith_of_headerAt? hh) hw (dotted?_apart hw) hm, hnone]
  unfold ofText
  rw [hn, happ]
  rfl

end

end TableName

/-! ## the key clause -/

section
variable {m s w : List Char}

theorem listText?_of_mem (h : ')' ∈ s) (hw : Apart w) : listText? (s ++ w) = listText? s := by
  show (run? _ (s ++ w)).bind _ = (run? _ s).bind _
  rw [run?_append_of_mem (by decide) h]
  cases run? (· ≠ ')') s with
  | none => rfl
  | some x =>
    show (symbol? ')' (x.2 ++ w)).bind _ = (symbol? ')' x.2).bind _
    rw [symbol?_apart (by decide) hw]
    cases symbol? ')' x.2 with
    | none => rfl
    | some r => rfl

/-- a key clause reader in front of another key clause does not see what follows that one -/
theorem keyListAt?_passed (hm : StartsWith 'p' m) (hclose : ')' ∈ m) (hw : Apart w) (hs : m <:+ s)
    (c : Char) : keyListAt? (c :: s ++ w) = keyListAt? (c :: s) := by
  rw [keyListAt?_keywords, keyListAt?_keywords]
  apply bind_ahead hm rfl hw (by decide) fun r => suffix_of_keyword?_cons hm (by decide) hs
  intro r hr
  rw [keyword?_apart (by decide) hw]
  cases h : keyword? "key".toList r with
  | none => rfl
  | some t =>
    have ht : m <:+ t := suffix_of_keyword? hm (by decide) hr h
    show (symbol? '(' (trimStart (t ++ w))).bind _ = (symbol? '(' (trimStart t)).bind _
    rw [trimStart_append_of_ne_nil (trimStart_ne_nil_of_suffix hm rfl ht),
      symbol?_apart (by decide) hw]
    cases hn : symbol? '(' (trimStart t) with
    | none => rfl
    | some n =>
      have hmem : ')' ∈ trimStart t := (suffix_trimStart hm rfl ht).subset hclose
      rw [symbol?_eq_some.mp hn] at hmem
      rcases List.mem_cons.mp hmem with h0 | hmem
      · cases h0
      · exact listText?_of_mem hmem hw

/-- a key clause holds its closing parenthesis -/
theorem mem_of_listText? {n : List Char} (h : listText? s = some n) : ')' ∈ s := by
  obtain ⟨x, hx, h⟩ := Option.bind_eq_some_iff.mp h
  obtain ⟨r, hr, _⟩ := Option.bind_eq_some_iff.mp h
  rw [(run?_eq_append hx).1, symbol?_eq_some.mp hr]
  exact List.mem_append_right _ (List.mem_cons_self ..)

theorem keyListAt?_found (hw : Apart w) {n : List Char} (h : keyListAt? s = some n) :
    keyListAt? (s ++ w) = some n := by
  rw [keyListAt?_keywords] at h ⊢
  obtain ⟨r, hr, h⟩ := Option.bind_eq_some_iff.mp h
  obtain ⟨t, ht, h⟩ := Option.bind_eq_some_iff.mp h
  obtain ⟨l, hl, h⟩ := Option.bind_eq_some_iff.mp h
  have hrne : r ≠ [] := by
    rintro rfl
    cases ht
  have htne : trimStart t ≠ [] := by
    intro h0
    rw [h0] at hl
    cases hl
  rw [TableName.keyword?_blanks?_append hr hrne]
  show (keyword? "key".toList (r ++ w)).bind _ = some n
  rw [keyword?_append ht]
  show (symbol? '(' (trimStart (t ++ w))).bind _ = some n
  rw [trimStart_append_of_ne_nil htne, symbol?_apart (by decide) hw, hl]
  show listText? (l ++ w) = some n
  rw [listText?_of_mem (mem_of_listText? h) hw, h]

theorem startsWith_of_keyListAt? {n : List Char} (h : keyListAt? m = some n) :
    StartsWith 'p' m ∧ ')' ∈ m := by
  rw [keyListAt?_keywords] at h
  obtain ⟨r, hr, h⟩ := Option.bind_eq_some_iff.mp h
  obtain ⟨t, ht, h⟩ := Option.bind_eq_some_iff.mp h
  obtain ⟨l, hl, h⟩ := Option.bind_eq_some_iff.mp h
  obtain ⟨z, hz, _⟩ := Option.bind_eq_some_iff.mp hr
  have hsuffix : '(' :: l <:+ m := by
    rw [← symbol?_eq_some.mp hl]
    exact (trimStart_suffix t).trans ((keyword?_suffix ht).trans (keyword?_blanks?_suffix hr))
  exact ⟨startsWith_of_keyword? hz,
    hsuffix.subset (List.mem_cons_of_mem _ (mem_of_listText? h))⟩

/-- a text that holds a key clause has its key, whatever follows it -/
theorem tableKey_followed (hw : Apart w) (h : (findFirst? keyListAt? s).isSome = true) :
    tableKey (s ++ w) = tableKey s := by
  obtain ⟨n, hn⟩ := Option.isSome_iff_exists.mp h
  have happ : findFirst? keyListAt? (s ++ w) = some n := by
    apply findFirst?_append_of_some (fun s n => keyListAt?_found hw) _ hn
    intro c t m hm hh hnone
    obtain ⟨l, hl⟩ := Option.isSome_iff_exists.mp hh
    obtain ⟨hstart, hclose⟩ := startsWith_of_keyListAt? hl
    rw [keyListAt?_passed hstart hclose hw hm, hnone]
  unfold tableKey
  rw [hn, happ]

end

/-! ## the body -/

namespace Body

variable {s : Depth}

/-- the lines leave no state behind exactly if one of them closes the body -/
theorem endState_eq_none_iff (s : Depth) (ls : List (List Char)) :
    endState s ls = none ↔ ∃ v ∈ visits s ls, v.next.closed = true := by
  induction ls generalizing s with
  | nil =>
    constructor
    · intro h
      cases h
    · rintro ⟨v, hv, _⟩
      cases hv
  | cons line ls ih =>
    cases hi : isIdle line with
    | true => rw [endState_idle hi, visits_idle hi, ih]
    | false =>
      cases hc : (visit s line).next.closed with
      | true =>
        rw [endState_closed hi hc, visits_closed hi hc]
        exact ⟨fun _ => ⟨_, List.mem_singleton_self _, hc⟩, fun _ => rfl⟩
      | false =>
        rw [endState_cons hi hc, visits_cons hi hc, ih]
        constructor
        · rintro ⟨v, hv, h⟩
          exact ⟨v, List.mem_cons_of_mem _ hv, h⟩
        · rintro ⟨v, hv, h⟩
          rcases List.mem_cons.mp hv with rfl | hv
          · rw [hc] at h
            cases h
          · exact ⟨v, hv, h⟩

theorem visits_filled (s : Depth) (ls : List (List Char)) :
    visits s (filled ls) = visits s (ls.map trim) := by
  induction ls generalizing s with
  | nil => rfl
  | cons l ls ih =>
    rw [filled_cons, List.map_cons]
    by_cases h : trim l = []
    · rw [filled_of_blank h, h, visits_idle isIdle_nil]
      exact ih s
    · rw [filled_of_ne h]
      show visits s (trim l :: filled ls) = visits s (trim l :: ls.map trim)
      unfold visits
      rw [ih, ih]

theorem visitsOf_eq (cs : List Char) : visitsOf cs = visits {} (tidyLines cs) :=
  (visits_filled {} (Text.lines cs)).symm

/-- behind the line that closes the body nothing is visited -/
theorem visitsOf_followed {a : List Char} (h : ∃ v ∈ visitsOf a, v.next.closed = true)
    (b : List Char) : visitsOf (a ++ '\n' :: b) = visitsOf a := by
  rw [visitsOf_eq] at h
  rw [visitsOf_eq, visitsOf_eq, tidyLines_append_newline, visits_append,
    (endState_eq_none_iff _ _).mpr h]
  exact List.append_nil _

end Body

theorem columnLines_followed {a : List Char} (h : ∃ v ∈ visitsOf a, v.next.closed = true)
    (b : List Char) : columnLines (a ++ '\n' :: b) = columnLines a := by
  unfold columnLines
  rw [lines_eq_visitsOf, lines_eq_visitsOf, visitsOf_followed h]

/-! ## the statement -/

/-- a statement with all its parts: a header with a schema, a key clause, and a body that is
closed -/
structure Complete (cs : List Char) : Prop where
  header : ∃ s ∈ cs.tails, (TableName.headerAt? TableName.dotted? s).isSome = true
  key : ∃ s ∈ cs.tails, (keyListAt? s).isSome = true
  /-- some line leaves no parenthesis open after one has been opened -/
  body : ∃ v ∈ visitsOf cs, v.next.closed = true

instance (cs : List Char) : Decidable (Complete cs) :=
  decidable_of_iff ((∃ s ∈ cs.tails, (TableName.headerAt? TableName.dotted? s).isSome = true) ∧
      (∃ s ∈ cs.tails, (keyListAt? s).isSome = true) ∧
      ∃ v ∈ visitsOf cs, v.next.closed = true)
    ⟨fun h => ⟨h.1, h.2.1, h.2.2⟩, fun h => ⟨h.header, h.key, h.body⟩⟩

theorem unquoted_followed (ddl more : String) :
    unquoted (ddl ++ "\n" ++ more) = unquoted ddl ++ '\n' :: unquoted more := by
  unfold unquoted
  rw [String.toList_append, String.toList_append, List.filter_append, List.filter_append,
    List.append_assoc]
  rfl

/-- **What follows a complete statement changes nothing.** -/
theorem ofDdl_followed (rules : Rules) {ddl : String} (h : Complete (unquoted ddl))
    (more : String) : Table.ofDdl rules (ddl ++ "\n" ++ more) = Table.ofDdl rules ddl := by
  have hw : Apart ('\n' :: unquoted more) := Apart.cons (by decide) _
  have hname : TableName.ofText (unquoted (ddl ++ "\n" ++ more)) =
      TableName.ofText (unquoted ddl) := by
    obtain ⟨s, hs, hh⟩ := h.header
    rw [unquoted_followed]
    exact TableName.ofText_followed hw (findFirst?_isSome ((List.mem_tails s _).mp hs) hh)
  have hkey : tableKey (unquoted (ddl ++ "\n" ++ more)) = tableKey (unquoted ddl) := by
    obtain ⟨s, hs, hk⟩ := h.key
    rw [unquoted_followed]
    exact tableKey_followed hw (findFirst?_isSome ((List.mem_tails s _).mp hs) hk)
  have hlines : columnLines (unquoted (ddl ++ "\n" ++ more)) = columnLines (unquoted ddl) := by
    rw [unquoted_followed]
    exact columnLines_followed h.body _
  have hflags : keyFlags (unquoted (ddl ++ "\n" ++ more)) = keyFlags (unquoted ddl) := by
    unfold keyFlags keptLines
    rw [hlines, hkey]
  have hsame : List.Forall₂ SameDeclaration (columnLines (unquoted ddl))
      (columnLines (unquoted (ddl ++ "\n" ++ more))) := by
    rw [hlines]
    exact List.forall₂_same.mpr fun l _ => SameDeclaration.refl l
  exact (ofDdl_eq_iff hsame).mpr (Or.inr ⟨hname, hflags⟩)

/-- a statement that ends in the middle of a second key clause -/
def keyedTwice : String :=
  "CREATE TABLE \"S\".T (\nA NUMBER(3),\nB DATE,\nPRIMARY KEY (A)\n) PRIMARY"

theorem ofDdl_followed_key : Complete (unquoted keyedTwice) ∧
    Table.ofDdl {} (keyedTwice ++ "\n" ++ "KEY (B)\nC INT,\nCREATE TABLE X.Y (") =
      Table.ofDdl {} keyedTwice ∧
    (Table.ofDdl {} keyedTwice).map (fun t => (t.schema, t.name, t.keyColumns.map (·.name))) =
      .ok ("S", "T", ["A"]) :=
  ⟨by decide +kernel, ofDdl_followed {} (by decide +kernel) _, by decide +kernel⟩

end DdlToJava.Ddl
