import DdlToJava.Proofs.Text.Tail
import Mathlib.Data.List.Infix
import DdlToJava.Ddl.Header
import DdlToJava.Ddl.KeyClause

/-!
# Places where a header or a key is not in the middle

The readers of the header and of the key clause look at the whole text, line ends or not.  A text
is `Settled` when none of them is on its way at the end of it: no keyword of theirs ends the text,
and no list of key columns is open.  Then they read the same from it whatever comes behind a blank
(`headerAt?_settled`, `keyListAt?_settled`).

So a part of a text that no header or key clause begins in can be left out behind a settled place:
`ofText_between` and `tableKey_between`.
-/

namespace DdlToJava.Ddl

open Text

/-- the words after which a header or a key clause goes on -/
def openWords : List (List Char) :=
  ["create", "table", "if", "not", "exists", "primary", "key"].map (·.toList)

theorem isLower_of_mem_openWords {w : List Char} (h : w ∈ openWords) :
    ∀ k ∈ w, k.isLower = true := by
  have hall : ∀ w ∈ openWords, ∀ k ∈ w, k.isLower = true := by decide
  exact hall w h

/-- no header and no key clause is on its way at the end of the text -/
structure Settled (a : List Char) : Prop where
  /-- something stands behind every keyword -/
  word : ∀ s ∈ a.tails, ∀ w ∈ openWords, ∀ r ∈ keyword? w s, trimStart r ≠ []
  /-- every list of key columns is closed -/
  list : ∀ s ∈ a.tails, ∀ r ∈ primaryKey? s, ∀ n ∈ symbol? '(' (trimStart r), ')' ∈ n

instance (a : List Char) : Decidable (Settled a) :=
  decidable_of_iff ((∀ s ∈ a.tails, ∀ w ∈ openWords, ∀ r ∈ keyword? w s, trimStart r ≠ []) ∧
      ∀ s ∈ a.tails, ∀ r ∈ primaryKey? s, ∀ n ∈ symbol? '(' (trimStart r), ')' ∈ n)
    ⟨fun h => ⟨h.1, h.2⟩, fun h => ⟨h.word, h.list⟩⟩

section
variable {a s w : List Char}

theorem Settled.suffix (ha : Settled a) (hs : s <:+ a) : Settled s where
  word t ht := ha.word t ((List.mem_tails t a).mpr (((List.mem_tails t s).mp ht).trans hs))
  list t ht := ha.list t ((List.mem_tails t a).mpr (((List.mem_tails t s).mp ht).trans hs))

theorem Settled.trimStart_ne_nil (ha : Settled a) {k r : List Char} (hk : k ∈ openWords)
    (h : keyword? k a = some r) : trimStart r ≠ [] :=
  ha.word a ((List.mem_tails a a).mpr List.suffix_rfl) k hk r h

/-! ## words with blanks behind them -/

theorem keyword?_blanks?_suffix {k r : List Char} (h : (keyword? k a).bind blanks? = some r) :
    r <:+ a := by
  obtain ⟨t, ht, hr⟩ := Option.bind_eq_some_iff.mp h
  exact (blanks?_suffix hr).trans (keyword?_suffix ht)

theorem keyword?_blanks?_settled (ha : Settled a) (hw : Apart w) {k : List Char}
    (hk : k ∈ openWords) :
    (keyword? k (a ++ w)).bind blanks? = ((keyword? k a).bind blanks?).map (· ++ w) := by
  rw [keyword?_apart (isLower_of_mem_openWords hk) hw]
  cases h : keyword? k a with
  | none => rfl
  | some r => exact blanks?_apart (ha.trimStart_ne_nil hk h)

/-- a reader of a word and blanks, and then of something that does not see the tail -/
theorem bind_settled {α : Type} (ha : Settled a) (hw : Apart w) {k : List Char}
    (hk : k ∈ openWords) {read : List Char → Option α} {f : α → α}
    (hread : ∀ r, Settled r → read (r ++ w) = (read r).map f) :
    ((keyword? k (a ++ w)).bind blanks?).bind read =
      (((keyword? k a).bind blanks?).bind read).map f := by
  rw [keyword?_blanks?_settled ha hw hk]
  cases h : (keyword? k a).bind blanks? with
  | none => rfl
  | some r => exact hread r (ha.suffix (keyword?_blanks?_suffix h))

/-! ## headers -/

namespace TableName

theorem createTable?_eq (cs : List Char) : createTable? cs =
    ((keyword? "create".toList cs).bind blanks?).bind fun r =>
      (keyword? "table".toList r).bind blanks? :=
  (Option.bind_assoc _ _ _).symm

theorem ifNotExists?_eq (cs : List Char) : ifNotExists? cs =
    ((keyword? "if".toList cs).bind blanks?).bind fun r =>
      ((keyword? "not".toList r).bind blanks?).bind fun r =>
        (keyword? "exists".toList r).bind blanks? := by
  simp only [Option.bind_assoc]
  rfl

theorem createTable?_suffix {r : List Char} (h : createTable? a = some r) : r <:+ a := by
  rw [createTable?_eq] at h
  obtain ⟨t, ht, hr⟩ := Option.bind_eq_some_iff.mp h
  exact (keyword?_blanks?_suffix hr).trans (keyword?_blanks?_suffix ht)

theorem createTable?_settled (ha : Settled a) (hw : Apart w) :
    createTable? (a ++ w) = (createTable? a).map (· ++ w) := by
  rw [createTable?_eq, createTable?_eq]
  exact bind_settled ha hw (by decide) fun r hr => keyword?_blanks?_settled hr hw (by decide)

theorem ifNotExists?_settled (ha : Settled a) (hw : Apart w) :
    ifNotExists? (a ++ w) = (ifNotExists? a).map (· ++ w) := by
  rw [ifNotExists?_eq, ifNotExists?_eq]
  exact bind_settled ha hw (by decide) fun r hr =>
    bind_settled hr hw (by decide) fun t ht => keyword?_blanks?_settled ht hw (by decide)

theorem dotted?_apart (hw : Apart w) (cs : List Char) : dotted? (cs ++ w) = dotted? cs := by
  unfold dotted?
  rw [word?_apart hw]
  cases word? cs with
  | none => rfl
  | some x =>
    show (symbol? '.' (x.2 ++ w)).bind _ = (symbol? '.' x.2).bind _
    rw [symbol?_apart (by decide) hw]
    cases symbol? '.' x.2 with
    | none => rfl
    | some r =>
      show (word? (r ++ w)).bind _ = (word? r).bind _
      rw [word?_apart hw]
      cases word? r with
      | none => rfl
      | some y => rfl

theorem plain?_apart (hw : Apart w) (cs : List Char) : plain? (cs ++ w) = plain? cs := by
  unfold plain?
  rw [word?_apart hw]
  cases word? cs with
  | none => rfl
  | some x => rfl

theorem headerAt?_settled {read : List Char → Option TableName}
    (hread : ∀ cs, read (cs ++ w) = read cs) (ha : Settled a) (hw : Apart w) :
    headerAt? read (a ++ w) = headerAt? read a := by
  unfold headerAt?
  rw [createTable?_settled ha hw]
  cases h : createTable? a with
  | none => rfl
  | some r =>
    show ((ifNotExists? (r ++ w)).bind read).or (read (r ++ w)) =
      ((ifNotExists? r).bind read).or (read r)
    rw [ifNotExists?_settled (ha.suffix (createTable?_suffix h)) hw, hread]
    cases ifNotExists? r with
    | none => rfl
    | some r' =>
      show (read (r' ++ w)).or _ = (read r').or _
      rw [hread]

end TableName

/-! ## key clauses -/

theorem primaryKey?_eq (cs : List Char) : primaryKey? cs =
    ((keyword? "primary".toList cs).bind blanks?).bind (keyword? "key".toList) :=
  (Option.bind_assoc _ _ _).symm

theorem primaryKey?_settled (ha : Settled a) (hw : Apart w) :
    primaryKey? (a ++ w) = (primaryKey? a).map (· ++ w) := by
  rw [primaryKey?_eq, primaryKey?_eq]
  exact bind_settled ha hw (by decide) fun r _ => keyword?_apart (by decide) hw r

/-- behind a key clause that is settled something stands -/
theorem Settled.trimStart_primaryKey? (ha : Settled a) {r : List Char}
    (h : primaryKey? a = some r) : trimStart r ≠ [] := by
  rw [primaryKey?_eq] at h
  obtain ⟨t, ht, hr⟩ := Option.bind_eq_some_iff.mp h
  exact (ha.suffix (keyword?_blanks?_suffix ht)).trimStart_ne_nil (by decide) hr

/-- a run that ends in a text ends there with anything behind the text -/
theorem run?_append_of_mem {p : Char → Bool} {k : Char} (hk : p k = false) {n : List Char}
    (hn : k ∈ n) (w : List Char) : run? p (n ++ w) = (run? p n).map fun x => (x.1, x.2 ++ w) := by
  cases h : run? p n with
  | none =>
    cases n with
    | nil => cases hn
    | cons c n =>
      cases hc : p c with
      | false => exact run?_cons_of_not hc (n ++ w)
      | true =>
        unfold run? at h
        rw [List.takeWhile_cons_of_pos hc] at h
        cases h
  | some x =>
    obtain ⟨htake, hdrop, hne⟩ := run?_eq_some p h
    obtain ⟨hcat, _, hall⟩ := run?_eq_append h
    have hx : x.2 ≠ [] := by
      intro h0
      rw [hcat, h0, List.append_nil] at hn
      have hpk := hall k hn
      rw [hk] at hpk
      cases hpk
    obtain ⟨c, r, hr⟩ := List.exists_cons_of_ne_nil hx
    have hc : p c = false := run?_boundary h c (by rw [hr]; rfl)
    rw [hcat, List.append_assoc]
    refine run?_append p hne hall ?_
    rw [hr]
    intro d hd
    cases hd
    exact hc

theorem keyListAt?_settled (ha : Settled a) (hw : Apart w) :
    keyListAt? (a ++ w) = keyListAt? a := by
  unfold keyListAt?
  rw [primaryKey?_settled ha hw]
  cases h : primaryKey? a with
  | none => rfl
  | some r =>
    show (symbol? '(' (trimStart (r ++ w))).bind _ = (symbol? '(' (trimStart r)).bind _
    rw [trimStart_append_of_ne_nil (ha.trimStart_primaryKey? h), symbol?_apart (by decide) hw]
    cases hn : symbol? '(' (trimStart r) with
    | none => rfl
    | some n =>
      have hclose : ')' ∈ n :=
        ha.list a ((List.mem_tails a a).mpr List.suffix_rfl) r h n hn
      show (run? _ (n ++ w)).bind _ = (run? _ n).bind _
      rw [run?_append_of_mem (by decide) hclose]
      cases run? (· ≠ ')') n with
      | none => rfl
      | some x =>
        show (symbol? ')' (x.2 ++ w)).bind _ = (symbol? ')' x.2).bind _
        rw [symbol?_apart (by decide) hw]
        cases symbol? ')' x.2 with
        | none => rfl
        | some r' => rfl

/-! ## leaving out a part -/

variable {x z : List Char}

/-- no header and no key clause begins in the text -/
structure Silent (x : List Char) : Prop where
  create : ∀ s ∈ x.tails, keyword? "create".toList s = none
  primary : ∀ s ∈ x.tails, keyword? "primary".toList s = none

instance (x : List Char) : Decidable (Silent x) :=
  decidable_of_iff ((∀ s ∈ x.tails, keyword? "create".toList s = none) ∧
      ∀ s ∈ x.tails, keyword? "primary".toList s = none)
    ⟨fun h => ⟨h.1, h.2⟩, fun h => ⟨h.create, h.primary⟩⟩

theorem quiet_of_keyword? {α : Type} {read : List Char → Option α} {k : List Char}
    (hk : ∀ c ∈ k, c.isLower = true) (hread : ∀ cs, keyword? k cs = none → read cs = none)
    (hx : ∀ s ∈ x.tails, keyword? k s = none) (hz : Apart z) : Quiet read x z := by
  intro s hs _
  apply hread
  rw [keyword?_apart hk hz, hx s ((List.mem_tails s x).mpr hs)]
  rfl

theorem Silent.quiet_header (hx : Silent x) (hz : Apart z) (read : List Char → Option TableName) :
    Quiet (TableName.headerAt? read) x z := by
  refine quiet_of_keyword? (by decide) (fun cs hcs => ?_) hx.create hz
  unfold TableName.headerAt? TableName.createTable?
  rw [hcs]
  rfl

/-- no key clause begins in a part without a `PRIMARY` -/
theorem quiet_key_of_primary (hx : ∀ s ∈ x.tails, keyword? "primary".toList s = none)
    (hz : Apart z) : Quiet keyListAt? x z := by
  refine quiet_of_keyword? (by decide) (fun cs hcs => ?_) hx hz
  unfold keyListAt? primaryKey?
  rw [hcs]
  rfl

theorem Silent.quiet_key (hx : Silent x) (hz : Apart z) : Quiet keyListAt? x z :=
  quiet_key_of_primary hx.primary hz

/-- a part where the reader fails can be left out where the reader does not look into it -/
theorem findFirst?_between {α : Type} {read : List Char → Option α}
    (h : ∀ s, s <:+ a → s ≠ [] → read (s ++ (x ++ z)) = read (s ++ z)) (hq : Quiet read x z) :
    findFirst? read (a ++ (x ++ z)) = findFirst? read (a ++ z) := by
  induction a with
  | nil => exact findFirst?_quiet hq
  | cons c a ih =>
    show (read (c :: a ++ (x ++ z))).or (findFirst? read (a ++ (x ++ z))) =
      (read (c :: a ++ z)).or (findFirst? read (a ++ z))
    rw [h (c :: a) List.suffix_rfl (List.cons_ne_nil c a),
      ih fun s hs => h s (hs.trans (List.suffix_cons c a))]

theorem Silent.cons {c : Char} (hc : foldLetter c ≠ 'c') (hp : foldLetter c ≠ 'p')
    (hx : Silent x) : Silent (c :: x) where
  create s hs := by
    rcases List.mem_cons.mp hs with rfl | hs
    · exact if_neg hc
    · exact hx.create s hs
  primary s hs := by
    rcases List.mem_cons.mp hs with rfl | hs
    · exact if_neg hp
    · exact hx.primary s hs

theorem Silent.blanks_append {ws : List Char} (hws : ∀ c ∈ ws, isSpace c = true) (hx : Silent x) :
    Silent (ws ++ x) := by
  induction ws with
  | nil => exact hx
  | cons c ws ih =>
    have hc : isSpace c = true := hws c (List.mem_cons_self ..)
    exact (ih fun d hd => hws d (List.mem_cons_of_mem c hd)).cons
      (foldLetter_ne_of_isSpace hc rfl) (foldLetter_ne_of_isSpace hc rfl)

theorem Silent.of_append (h : Silent (x ++ z)) : Silent x := by
  have hfront {k : List Char} (hk : ∀ s ∈ (x ++ z).tails, keyword? k s = none) :
      ∀ s ∈ x.tails, keyword? k s = none := by
    intro s hs
    obtain ⟨y, rfl⟩ := (List.mem_tails s x).mp hs
    cases hr : keyword? k s with
    | none => rfl
    | some r =>
      have hsz := hk (s ++ z) ((List.mem_tails _ _).mpr ⟨y, (List.append_assoc y s z).symm⟩)
      rw [keyword?_append hr z] at hsz
      cases hsz
  exact ⟨hfront h.create, hfront h.primary⟩

/-- where no key clause begins, there is no key mark -/
theorem Silent.hasKeyMark (hx : Silent x) (inWord : Bool) : hasKeyMark inWord x = false := by
  induction x generalizing inWord with
  | nil => rfl
  | cons c x ih =>
    have hc : keyMarkAt (c :: x) = false := by
      unfold keyMarkAt primaryKey?
      rw [hx.primary (c :: x) (List.mem_cons_self ..)]
      rfl
    show (!inWord && keyMarkAt (c :: x) || Ddl.hasKeyMark (isWord c) x) = false
    rw [hc, Bool.and_false, Bool.false_or]
    exact ih ⟨fun s hs => hx.create s (List.mem_cons_of_mem _ hs),
      fun s hs => hx.primary s (List.mem_cons_of_mem _ hs)⟩ (isWord c)

theorem TableName.ofText_between (ha : Settled a) (hx : Silent x) (hxz : a ≠ [] → Apart (x ++ z))
    (hz : Apart z) : TableName.ofText (a ++ (x ++ z)) = TableName.ofText (a ++ z) := by
  have hread {read : List Char → Option TableName}
      (h : ∀ {w}, Apart w → ∀ cs, read (cs ++ w) = read cs) :
      findFirst? (headerAt? read) (a ++ (x ++ z)) = findFirst? (headerAt? read) (a ++ z) := by
    refine findFirst?_between (fun s hs hne => ?_) (hx.quiet_header hz read)
    have hane : a ≠ [] := by
      rintro rfl
      exact hne (List.suffix_nil.mp hs)
    rw [headerAt?_settled (h (hxz hane)) (ha.suffix hs) (hxz hane),
      headerAt?_settled (h hz) (ha.suffix hs) hz]
  unfold TableName.ofText
  rw [hread dotted?_apart, hread plain?_apart]

theorem tableKey_between (ha : Settled a) (hx : Silent x) (hxz : a ≠ [] → Apart (x ++ z))
    (hz : Apart z) : tableKey (a ++ (x ++ z)) = tableKey (a ++ z) := by
  have hread : findFirst? keyListAt? (a ++ (x ++ z)) = findFirst? keyListAt? (a ++ z) := by
    refine findFirst?_between (fun s hs hne => ?_) (hx.quiet_key hz)
    have hane : a ≠ [] := by
      rintro rfl
      exact hne (List.suffix_nil.mp hs)
    rw [keyListAt?_settled (ha.suffix hs) (hxz hane), keyListAt?_settled (ha.suffix hs) hz]
  unfold tableKey
  rw [hread]

theorem TableName.ofText_newline (cs : List Char) :
    TableName.ofText ('\n' :: cs) = TableName.ofText cs := rfl

theorem tableKey_newline (cs : List Char) : tableKey ('\n' :: cs) = tableKey cs := rfl

end

end DdlToJava.Ddl
