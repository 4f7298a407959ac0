import DdlToJava.Proofs.Ddl.PrintedName

/-!
# The key of a printed statement

The key of a table is searched for in the whole text.  Nothing that is printed in front of the
constraint can be mistaken for it: a column whose name ends in `PRIMARY` is not followed by `KEY`,
and a column that is marked is not followed by a parenthesis (`quiet_columns`).  So the first key
clause is the printed one, and its names come back (`tableKey_print`).
-/

namespace DdlToJava.Ddl

open Text Body Layout

/-! ## quiet parts -/

/-- what a key clause needs behind `PRIMARY` and its blanks -/
def afterPrimary? (cs : List Char) : Option (List Char) := do
  let cs ← keyword? "key".toList cs
  let cs ← symbol? '(' (trimStart cs)
  let (names, cs) ← run? (· ≠ ')') cs
  let _ ← symbol? ')' cs
  some names

theorem keyListAt?_eq (cs : List Char) :
    keyListAt? cs = ((keyword? "primary".toList cs).bind blanks?).bind afterPrimary? := by
  unfold keyListAt?
  rw [primaryKey?_eq]
  show ((((keyword? "primary".toList cs).bind blanks?).bind (keyword? "key".toList)).bind _) = _
  rw [Option.bind_assoc]
  rfl

/-- a word that is not followed by the rest of a key clause -/
theorem quiet_word {w z : List Char} (hw : ∀ c ∈ w, isWord c = true) (hz : EndsWord z)
    (h : ∀ r, blanks? z = some r → afterPrimary? r = none) : Quiet keyListAt? w z := by
  intro s hs _
  rw [keyListAt?_eq]
  cases hk : (keyword? "primary".toList (s ++ z)).bind blanks? with
  | none => rfl
  | some r =>
    obtain ⟨_, hr⟩ := keyword?_blanks?_word (by decide) (fun c hc => hw c (hs.subset hc)) hz hk
    exact h r hr

/-- no key clause begins outside of a word -/
theorem quiet_of_not_word {x : List Char} (hx : ∀ c ∈ x, isWord c = false) (z : List Char) :
    Quiet keyListAt? x z := by
  intro s hs hne
  obtain ⟨c, t, rfl⟩ := List.exists_cons_of_ne_nil hne
  have hc := hx c (hs.subset (List.mem_cons_self ..))
  have hp : keyword? "primary".toList (c :: t ++ z) = none := by
    refine if_neg fun hfold => ?_
    rw [isWord_of_foldLetter (c := c) (by rw [hfold]; rfl)] at hc
    cases hc
  rw [keyListAt?_eq, hp]
  rfl

theorem quiet_blank (z : List Char) : Quiet keyListAt? [' '] z :=
  quiet_of_not_word (by decide) z

/-- a comma or a closing parenthesis comes next, perhaps behind blanks -/
structure Closing (z : List Char) : Prop where
  endsWord : EndsWord z
  head : ∀ c, (trimStart z).head? = some c → c = ',' ∨ c = ')'

theorem afterPrimary?_of_head {r : List Char} (h : ∀ c, r.head? = some c → foldLetter c ≠ 'k') :
    afterPrimary? r = none := by
  have hk : keyword? "key".toList r = none := by
    cases r with
    | nil => rfl
    | cons c r => exact if_neg (h c rfl)
  unfold afterPrimary?
  rw [hk]
  rfl

theorem Closing.afterPrimary? {z r : List Char} (hz : Closing z) (h : blanks? z = some r) :
    afterPrimary? r = none := by
  obtain ⟨_, rfl⟩ := blanks?_eq_some.mp h
  refine afterPrimary?_of_head fun c hc => ?_
  rcases hz.head c hc with rfl | rfl <;> decide

theorem Closing.quiet_word {w z : List Char} (hz : Closing z) (hw : ∀ c ∈ w, isWord c = true) :
    Quiet keyListAt? w z :=
  Ddl.quiet_word hw hz.endsWord fun _ h => hz.afterPrimary? h

theorem quiet_word_of_not_blank {w z : List Char} {c : Char} (hw : ∀ c ∈ w, isWord c = true)
    (hc : isWord c = false) (hs : isSpace c = false) : Quiet keyListAt? w (c :: z) :=
  quiet_word hw (EndsWord.cons hc z) fun r h => by
    rw [blanks?_cons_of_not hs] at h
    cases h

/-- a word with a blank behind it and another letter than a k behind the blank -/
theorem quiet_word_blank {w z : List Char} {c : Char} (hw : ∀ c ∈ w, isWord c = true)
    (hs : isSpace c = false) (hc : foldLetter c ≠ 'k') : Quiet keyListAt? w (' ' :: c :: z) := by
  refine quiet_word hw (EndsWord.cons (by decide) _) fun r h => ?_
  obtain ⟨_, rfl⟩ := blanks?_eq_some.mp h
  refine afterPrimary?_of_head fun d hd => ?_
  have htrim : trimStart (' ' :: c :: z) = c :: z := trimStart_cons_of_not hs z
  rw [htrim] at hd
  cases hd
  exact hc

/-! ## columns -/

section
variable {z : List Char}

theorem isWord_of_mem_toDigits {n : Nat} : ∀ c ∈ Nat.toDigits 10 n, isWord c = true := by
  intro c h
  rcases allPlain_toDigits n c h with h' | h'
  · exact h'
  · have hdigit := Nat.isDigit_of_mem_toDigits (by decide) (by decide) h
    rcases h' with rfl | rfl | rfl | rfl <;> cases hdigit

theorem quiet_unit {u : List Char} (hu : ∀ c ∈ u, isWord c = true) :
    Quiet keyListAt? ([' '] ++ (u ++ [')'])) z := by
  have hword : Quiet keyListAt? u ([')'] ++ z) :=
    quiet_word_of_not_blank hu (by decide) (by decide)
  exact Quiet.append (quiet_blank _) (Quiet.append hword (quiet_of_not_word (by decide) z))

theorem Size.quiet (s : Size) : Quiet keyListAt? s.print z := by
  -- a number between an opening parenthesis and a text that goes on with another sign
  have hnumber (p : SizeNumber) {x : List Char}
      (hdigits : Quiet keyListAt? (Nat.toDigits 10 p) (x ++ z)) (hx : Quiet keyListAt? x z) :
      Quiet keyListAt? ('(' :: Nat.toDigits 10 p ++ x) z :=
    Quiet.append (Quiet.append (a := ['(']) (quiet_of_not_word (by decide) _) hdigits) hx
  cases s with
  | none => exact Quiet.nil z
  | plain p =>
    exact hnumber p (quiet_word_of_not_blank isWord_of_mem_toDigits (by decide) (by decide))
      (quiet_of_not_word (by decide) z)
  | scaled p s =>
    have hprint : Size.print (.scaled p s) =
        '(' :: Nat.toDigits 10 p ++ ((',' :: Nat.toDigits 10 s) ++ [')']) :=
      List.append_assoc _ _ _
    rw [hprint]
    refine hnumber p (quiet_word_of_not_blank isWord_of_mem_toDigits (by decide) (by decide)) ?_
    refine Quiet.append (Quiet.append (a := [',']) (quiet_of_not_word (by decide) _) ?_)
      (quiet_of_not_word (by decide) z)
    exact quiet_word_of_not_blank isWord_of_mem_toDigits (by decide) (by decide)
  | bytes p =>
    refine hnumber p (quiet_word_blank isWord_of_mem_toDigits (by decide) (by decide)) ?_
    exact quiet_unit (u := "BYTE".toList) (by decide)
  | chars p =>
    refine hnumber p (quiet_word_blank isWord_of_mem_toDigits (by decide) (by decide)) ?_
    exact quiet_unit (u := "CHAR".toList) (by decide)

/-- a marked column is not followed by a parenthesis, so its mark is no key clause -/
theorem Mark.quiet (m : Mark) (hz : Closing z) : Quiet keyListAt? m.print z := by
  cases m with
  | none => exact Quiet.nil z
  | notNull =>
    refine Quiet.append (a := " NOT ".toList) (b := "NULL".toList) ?_
      (hz.quiet_word (by decide))
    refine Quiet.append (a := " NOT".toList) (b := [' ']) ?_ (quiet_blank _)
    exact Quiet.append (a := [' ']) (b := "NOT".toList) (quiet_blank _)
      (quiet_word_blank (by decide) (by decide) (by decide))
  | primaryKey =>
    have hlist : afterPrimary? ("KEY".toList ++ z) = Option.none := by
      show (symbol? '(' (trimStart z)).bind _ = Option.none
      cases ht : trimStart z with
      | nil => rfl
      | cons c r =>
        have hc : c ≠ '(' := by
          rcases hz.head c (by rw [ht]; rfl) with rfl | rfl <;> decide
        rw [symbol?_cons, if_neg hc]
        rfl
    refine Quiet.append (a := " PRIMARY ".toList) (b := "KEY".toList) ?_
      (hz.quiet_word (by decide))
    refine Quiet.append (a := " PRIMARY".toList) (b := [' ']) ?_ (quiet_blank _)
    refine Quiet.append (a := [' ']) (b := "PRIMARY".toList) (quiet_blank _) ?_
    refine quiet_word (by decide) (EndsWord.cons (by decide) _) fun r h => ?_
    obtain ⟨_, rfl⟩ := blanks?_eq_some.mp h
    exact hlist

/-- behind a column name stands a type that is not `KEY` -/
theorem ColumnDecl.afterPrimary?_type (c : ColumnDecl) (x : List Char) (hx : EndsWord x) :
    afterPrimary? (c.typeName.chars ++ x) = none := by
  cases hk : keyword? "key".toList (c.typeName.chars ++ x) with
  | none =>
    unfold afterPrimary?
    rw [hk]
    rfl
  | some r =>
    obtain ⟨u, v, huv, rfl, hu⟩ := keyword?_word (by decide) hx hk
    unfold afterPrimary?
    rw [hk]
    cases v with
    | nil =>
      exfalso
      apply c.type_ne
      rw [← Name.map_foldLetter_chars, huv, List.append_nil, hu]
    | cons d v =>
      have hmem : d ∈ c.typeName.chars := by
        rw [huv]
        exact List.mem_append_right u (List.mem_cons_self ..)
      have hd : isWord d = true := Name.isWord_of_mem_chars hmem
      have hne : d ≠ '(' := by
        rintro rfl
        cases hd
      show (symbol? '(' (trimStart (d :: v ++ x))).bind _ = none
      rw [List.cons_append, trimStart_cons_of_not (isSpace_of_isWord hd), symbol?_cons, if_neg hne]
      rfl

/-- behind a type stands no `KEY` -/
theorem afterPrimary?_behind_type (hz : Closing z) (s : Size) (m : Mark) (r : List Char)
    (h : blanks? (s.print ++ (m.print ++ z)) = some r) : afterPrimary? r = none := by
  cases s with
  | none =>
    cases m with
    | none => exact hz.afterPrimary? h
    | notNull =>
      obtain ⟨_, rfl⟩ := blanks?_eq_some.mp h
      refine afterPrimary?_of_head fun d hd => ?_
      cases hd
      decide
    | primaryKey =>
      obtain ⟨_, rfl⟩ := blanks?_eq_some.mp h
      refine afterPrimary?_of_head fun d hd => ?_
      cases hd
      decide
  | plain p => cases h
  | scaled p s => cases h
  | bytes p => cases h
  | chars p => cases h

theorem ColumnDecl.quiet (c : ColumnDecl) (hz : Closing z) : Quiet keyListAt? (c.print []) z := by
  have hmark := c.mark.endsWord hz.endsWord
  have hsize := c.size.endsWord hmark
  have hprint : c.print [] =
      c.name.chars ++ ([' '] ++ (c.typeName.chars ++ (c.size.print ++ c.mark.print))) := by
    unfold ColumnDecl.print
    rw [Name.within_nil, List.append_assoc, List.append_assoc]
    rfl
  rw [hprint]
  refine Quiet.append ?_ (Quiet.append (quiet_blank _) (Quiet.append ?_
    (Quiet.append c.size.quiet (c.mark.quiet hz))))
  · refine quiet_word (fun _ hc => Name.isWord_of_mem_chars hc) (EndsWord.cons (by decide) _)
      fun r h => ?_
    obtain ⟨_, rfl⟩ := blanks?_eq_some.mp h
    have htrim : trimStart ([' '] ++ (c.typeName.chars ++ (c.size.print ++ c.mark.print)) ++ z) =
        c.typeName.chars ++ (c.size.print ++ (c.mark.print ++ z)) := by
      show trimStart (c.typeName.chars ++ (c.size.print ++ c.mark.print) ++ z) = _
      rw [List.append_assoc, List.append_assoc]
      refine trimStart_of_head fun d hd => ?_
      cases hd
      exact isSpace_of_isWord (Name.isWord_of_mem_chars (List.mem_cons_self ..))
    rw [htrim]
    exact c.afterPrimary?_type _ hsize
  · refine quiet_word (fun _ hc => Name.isWord_of_mem_chars hc)
      (by rw [List.append_assoc]; exact hsize) fun r h => ?_
    rw [List.append_assoc] at h
    exact afterPrimary?_behind_type hz c.size c.mark r h

/-! ## all columns -/

theorem quiet_columns {sep : List Char} (hword : ∀ c ∈ sep, isWord c = false)
    (hsep : ∀ x, Closing (sep ++ x)) (hz : Closing z) (cs : List ColumnDecl) :
    Quiet keyListAt? (sep.intercalate (cs.map (·.print []))) z := by
  induction cs with
  | nil => exact Quiet.nil z
  | cons c cs ih =>
    cases cs with
    | nil =>
      show Quiet keyListAt? (sep.intercalate [c.print []]) z
      rw [List.intercalate_singleton]
      exact c.quiet hz
    | cons d ds =>
      show Quiet keyListAt? (sep.intercalate (c.print [] :: d.print [] :: ds.map (·.print []))) z
      rw [List.intercalate_cons_cons]
      refine Quiet.append (Quiet.append (c.quiet ?_) (quiet_of_not_word hword _)) ih
      exact hsep _

/-! ## the text in front of the key -/

theorem not_word_append {a b : List Char} (ha : ∀ c ∈ a, isWord c = false)
    (hb : ∀ c ∈ b, isWord c = false) : ∀ c ∈ a ++ b, isWord c = false := by
  intro c hc
  rcases List.mem_append.mp hc with hc | hc
  · exact ha c hc
  · exact hb c hc

theorem Layout.not_word_between (indent : Nat) (layout : Layout) :
    ∀ c ∈ layout.between indent, isWord c = false := by
  have hblank : ∀ c ∈ '\n' :: List.replicate indent ' ', isWord c = false := fun c hc =>
    isWord_of_isSpace (isSpace_of_mem_indent c hc)
  cases layout with
  | trailing => exact not_word_append (a := [',']) (by decide) hblank
  | exported => exact not_word_append (a := [',']) (by decide) hblank
  | leading => exact not_word_append hblank (by decide)

theorem Layout.not_word_opening (indent : Nat) (layout : Layout) :
    ∀ c ∈ layout.opening indent, isWord c = false := by
  have hblank : ∀ c ∈ '\n' :: List.replicate indent ' ', isWord c = false := fun c hc =>
    isWord_of_isSpace (isSpace_of_mem_indent c hc)
  cases layout with
  | trailing => exact not_word_append (by decide) hblank
  | leading => exact not_word_append (by decide) hblank
  | exported => exact not_word_append hblank (by decide)

theorem Layout.closing_between (indent : Nat) (layout : Layout) (x : List Char) :
    Closing (layout.between indent ++ x) := by
  have hcomma (y : List Char) : Closing (',' :: y) :=
    ⟨EndsWord.cons (by decide) y, fun c hc => by cases hc; exact Or.inl rfl⟩
  cases layout with
  | trailing => exact hcomma _
  | exported => exact hcomma _
  | leading =>
    refine ⟨EndsWord.cons (by decide) _, fun c hc => Or.inl ?_⟩
    have htrim : trimStart (between indent .leading ++ x) = [',', ' '] ++ x := by
      show trimStart ((('\n' :: List.replicate indent ' ') ++ [',', ' ']) ++ x) = _
      rw [List.append_assoc, trimStart_blanks_append isSpace_of_mem_indent]
      rfl
    rw [htrim] at hc
    cases hc
    rfl

theorem quiet_fullName (d : Declaration) {x : List Char} (hx : EndsWord x)
    (hopen : (trimStart x).head? = some '(') : Quiet keyListAt? d.fullName x := by
  have htable : Quiet keyListAt? d.table.chars x := by
    refine quiet_word (fun _ hc => Name.isWord_of_mem_chars hc) hx fun r h => ?_
    obtain ⟨_, rfl⟩ := blanks?_eq_some.mp h
    refine afterPrimary?_of_head fun c hc => ?_
    rw [hopen] at hc
    cases hc
    decide
  unfold Declaration.fullName
  refine Quiet.append ?_ htable
  cases d.schema with
  | none => exact Quiet.nil _
  | some s =>
    exact Quiet.append
      (quiet_word_of_not_blank (fun _ hc => Name.isWord_of_mem_chars hc) (by decide) (by decide))
      (quiet_of_not_word (by decide) _)

/-- nothing in front of the constraint is a key clause -/
theorem quiet_front (d : Declaration) (indent : Nat) (layout : Layout) (hz : Closing z) :
    Quiet keyListAt? ("CREATE TABLE ".toList ++ (d.fullName ++ (layout.opening indent ++
      (layout.between indent).intercalate (d.columns.map (·.print []))))) z := by
  have hwords : Quiet keyListAt? "CREATE TABLE ".toList (d.fullName ++ (layout.opening indent ++
      (layout.between indent).intercalate (d.columns.map (·.print []))) ++ z) := by
    refine Quiet.append (a := "CREATE TABLE".toList) (b := [' ']) ?_ (quiet_blank _)
    exact quiet_key_of_primary (by decide) (Apart.cons (by decide) _)
  refine Quiet.append hwords (Quiet.append ?_ (Quiet.append ?_ ?_))
  · rw [List.append_assoc]
    exact quiet_fullName d (layout.endsWord_opening indent _) (layout.opening_spec indent _).2
  · exact quiet_of_not_word (layout.not_word_opening indent) _
  · exact quiet_columns (layout.not_word_between indent) (layout.closing_between indent) hz
      d.columns

/-! ## the key -/

theorem closing_end : Closing ['\n', ')'] :=
  ⟨EndsWord.cons (by decide) _, fun c hc => by cases hc; exact Or.inr rfl⟩

theorem intercalate_concat (sep b : List Char) {a : List (List Char)} (ha : a ≠ []) :
    sep.intercalate (a ++ [b]) = sep.intercalate a ++ (sep ++ b) := by
  obtain ⟨x, xs, rfl⟩ := List.exists_cons_of_ne_nil ha
  rw [List.cons_append, intercalate_cons, intercalate_cons, List.flatMap_append,
    ← List.append_assoc]
  congr 1
  exact List.append_nil _

theorem map_trim_pieces_blank (x : List Char) :
    (pieces ',' (' ' :: x)).map trim = (pieces ',' x).map trim := by
  rw [pieces_cons_of_ne x (by decide)]
  obtain ⟨p, ps, hp⟩ := List.exists_cons_of_ne_nil (pieces_ne_nil ',' x)
  rw [hp]
  rfl

/-- the names of a list, each with its blank taken off -/
theorem map_trim_pieces_listed {ns : List Name} (h : ns ≠ []) :
    (pieces ',' (listed ns)).map trim = ns.map (·.chars) := by
  induction ns with
  | nil => exact absurd rfl h
  | cons n ns ih =>
    have hcomma : ',' ∉ n.chars := Name.not_mem_chars (by decide)
    have htrim : trim n.chars = n.chars :=
      trim_pad (fun c hc => isSpace_of_isWord (Name.isWord_of_mem_chars (List.mem_of_head? hc)))
        n.solidEnd 0
    by_cases h0 : ns = []
    · rw [h0, listed_singleton, pieces_of_not_mem hcomma]
      show [trim n.chars] = [n.chars]
      rw [htrim]
    · rw [listed_cons h0, pieces_append_sep hcomma, List.map_cons, map_trim_pieces_blank, ih h0,
        htrim]
      rfl

theorem keyNames_listed {ns : List Name} (h : ns ≠ []) :
    keyNames (listed ns) = ns.map (·.text) := by
  unfold keyNames
  rw [map_trim_pieces_listed h]
  have hall : (ns.map (·.chars)).filter (· ≠ []) = ns.map (·.chars) := by
    refine List.filter_eq_self.mpr fun x hx => ?_
    obtain ⟨n, _, rfl⟩ := List.mem_map.mp hx
    exact decide_eq_true Name.chars_ne_nil
  rw [hall, List.map_map]
  rfl

/-- the printed clause is read as its list -/
theorem keyListAt?_print {ns : List Name} (h : ns ≠ []) (x : List Char) :
    keyListAt? ("PRIMARY KEY (".toList ++ (listed ns ++ ')' :: x)) = some (listed ns) := by
  have hinside : ∀ c ∈ listed ns, decide (c ≠ ')') = true := by
    intro c hc
    refine decide_eq_true ?_
    rintro rfl
    rcases mem_listed hc with h | h | h
    · cases h
    · cases h
    · cases h
  have hne : listed ns ≠ [] := by
    obtain ⟨n, ms, rfl⟩ := List.exists_cons_of_ne_nil h
    unfold listed
    rw [List.map_cons, intercalate_cons]
    exact List.append_ne_nil_of_left_ne_nil Name.chars_ne_nil _
  show (run? (· ≠ ')') (listed ns ++ ')' :: x)).bind _ = _
  rw [run?_append _ hne hinside fun c hc => by cases hc; rfl]
  rfl

/-- the search for a key may start behind the last column -/
theorem findFirst?_print {d : Declaration} {indent : Nat} {layout : Layout} (hz : Closing z)
    (h : (layout.between indent).intercalate (d.items []) ++ ['\n', ')'] =
      (layout.between indent).intercalate (d.columns.map (·.print [])) ++ z) :
    findFirst? keyListAt? (joined (d.lines [] indent layout)) = findFirst? keyListAt? z := by
  have htext : joined (d.lines [] indent layout) =
      ("CREATE TABLE ".toList ++ (d.fullName ++ (layout.opening indent ++
        (layout.between indent).intercalate (d.columns.map (·.print []))))) ++ z := by
    rw [d.joined_lines]
    unfold Declaration.tail
    rw [h, List.append_assoc, List.append_assoc, List.append_assoc]
  rw [htext]
  exact findFirst?_quiet (quiet_front d indent layout hz)

/-- the first key clause behind the columns is the one of the constraint -/
theorem findFirst?_constraint (k : KeyDecl) {sep : List Char} (hsep : ∀ c ∈ sep, isWord c = false)
    (x : List Char) :
    findFirst? keyListAt? (sep ++ (k.print [] ++ x)) = some (listed k.names) := by
  have htext : sep ++ (k.print [] ++ x) =
      (sep ++ ("CONSTRAINT".toList ++ ([' '] ++ (k.label.chars ++ [' '])))) ++
        ("PRIMARY KEY (".toList ++ (listed k.names ++ ')' :: x)) := by
    rw [k.print_nil]
    simp only [List.append_assoc]
    rfl
  have hquiet : Quiet keyListAt?
      (sep ++ ("CONSTRAINT".toList ++ ([' '] ++ (k.label.chars ++ [' ']))))
      ("PRIMARY KEY (".toList ++ (listed k.names ++ ')' :: x)) := by
    refine Quiet.append (quiet_of_not_word hsep _) (Quiet.append ?_ (Quiet.append (quiet_blank _)
      (Quiet.append ?_ (quiet_blank _))))
    · exact quiet_key_of_primary (by decide) (Apart.cons (by decide) _)
    · exact quiet_word_blank (fun _ hc => Name.isWord_of_mem_chars hc) (by decide) (by decide)
  rw [htext, findFirst?_quiet hquiet]
  exact findFirst?_of_front (keyListAt?_print k.names_ne x)

/-- the key of a printed statement is the key that it was printed with -/
theorem tableKey_print (layout : Layout) (indent : Nat) (d : Declaration) :
    tableKey (unquoted (d.print layout indent)) = d.keyNames := by
  rw [d.unquoted_print]
  unfold tableKey Declaration.keyNames
  cases hk : d.key with
  | none =>
    have hitems : d.items [] = d.columns.map (·.print []) := by
      unfold Declaration.items
      rw [hk]
      exact List.append_nil _
    rw [findFirst?_print (z := ['\n', ')']) closing_end (by rw [hitems])]
    rfl
  | some k =>
    have hcols : d.columns.map (·.print []) ≠ [] := by
      rw [ne_eq, List.map_eq_nil_iff]
      exact d.columns_ne
    have hitems : d.items [] = d.columns.map (·.print []) ++ [k.print []] := by
      unfold Declaration.items
      rw [hk]
      rfl
    rw [findFirst?_print (layout.closing_between indent (k.print [] ++ ['\n', ')'])) (by
        rw [hitems, intercalate_concat _ _ hcols, List.append_assoc, List.append_assoc]),
      findFirst?_constraint k (layout.not_word_between indent)]
    exact keyNames_listed k.names_ne

end

end DdlToJava.Ddl
