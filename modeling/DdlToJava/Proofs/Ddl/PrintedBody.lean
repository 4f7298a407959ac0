import DdlToJava.Proofs.Ddl.Printed

/-!
# The scan of a printed body

Behind the header the scan is at depth zero or one, and every line of a printed body brings it to
depth one and leaves it there: the line `Reads` as its column, or as nothing.  So the closing
parenthesis finds all columns read, in their order (`columnLines_print`), whatever the layout.
-/

namespace DdlToJava.Ddl

open Text Body Layout

/-! ## characters -/

/-- a character of an item -/
def Plain (c : Char) : Prop := isWord c = true ∨ c = ' ' ∨ c = '(' ∨ c = ')' ∨ c = ','

theorem Plain.isLineBreak {c : Char} (h : Plain c) : isLineBreak c = false := by
  rcases h with h | rfl | rfl | rfl | rfl
  · cases hb : Text.isLineBreak c with
    | false => rfl
    | true =>
      rw [isWord_of_isSpace (isSpace_of_isLineBreak c hb)] at h
      cases h
  · rfl
  · rfl
  · rfl
  · rfl

theorem Plain.ne {c k : Char} (h : Plain c) (hk : isWord k = false)
    (hks : k ∉ [' ', '(', ')', ',']) : c ≠ k := by
  rintro rfl
  rcases h with h | h
  · rw [hk] at h
    cases h
  · apply hks
    rcases h with h | h | h | h
    · rw [h]
      decide
    · rw [h]
      decide
    · rw [h]
      decide
    · rw [h]
      decide

/-- all characters of the text are plain -/
def AllPlain (cs : List Char) : Prop := ∀ c ∈ cs, Plain c

theorem AllPlain.append {a b : List Char} (ha : AllPlain a) (hb : AllPlain b) :
    AllPlain (a ++ b) := by
  intro c hc
  rcases List.mem_append.mp hc with h | h
  · exact ha c h
  · exact hb c h

theorem AllPlain.bare {cs : List Char} (h : AllPlain cs) : bare cs = cs := by
  refine List.filter_eq_self.mpr fun c hc => ?_
  exact decide_eq_true ((h c hc).ne (by decide) (by decide))

theorem Name.allPlain (n : Name) : AllPlain n.chars := fun _ h => Or.inl (isWord_of_mem_chars h)

theorem allPlain_toDigits (n : Nat) : AllPlain (Nat.toDigits 10 n) := by
  intro c h
  refine Or.inl ?_
  have hdigit := Nat.isDigit_of_mem_toDigits (by decide) (by decide) h
  have halnum : c.isAlphanum = true := by
    unfold Char.isAlphanum
    rw [hdigit, Bool.or_true]
  exact isWord_of_isAlphanum c halnum (toNat_lt_of_isAlphanum halnum)

instance (c : Char) : Decidable (Plain c) :=
  inferInstanceAs (Decidable (isWord c = true ∨ c = ' ' ∨ c = '(' ∨ c = ')' ∨ c = ','))

instance (cs : List Char) : Decidable (AllPlain cs) :=
  inferInstanceAs (Decidable (∀ c ∈ cs, Plain c))

theorem Size.allPlain (s : Size) : AllPlain s.print := by
  cases s with
  | none => exact List.forall_mem_nil _
  | plain p =>
    exact (AllPlain.append (a := ['(']) (by decide) (allPlain_toDigits p)).append (by decide)
  | scaled p s =>
    exact ((AllPlain.append (a := ['(']) (by decide) (allPlain_toDigits p)).append
      (AllPlain.append (a := [',']) (by decide) (allPlain_toDigits s))).append (by decide)
  | bytes p =>
    exact (AllPlain.append (a := ['(']) (by decide) (allPlain_toDigits p)).append (by decide)
  | chars p =>
    exact (AllPlain.append (a := ['(']) (by decide) (allPlain_toDigits p)).append (by decide)

theorem Mark.allPlain (m : Mark) : AllPlain m.print := by
  cases m with
  | none => decide
  | notNull => decide
  | primaryKey => decide

theorem ColumnDecl.allPlain (c : ColumnDecl) : AllPlain (c.print []) := by
  unfold ColumnDecl.print
  rw [Name.within_nil]
  exact ((c.name.allPlain.append (AllPlain.append (a := [' ']) (by decide)
    c.typeName.allPlain)).append c.size.allPlain).append c.mark.allPlain

/-! ## lists of names -/

/-- names with a comma and a blank between two of them -/
def listed (ns : List Name) : List Char := [',', ' '].intercalate (ns.map (·.chars))

theorem listed_cons {n : Name} {ns : List Name} (h : ns ≠ []) :
    listed (n :: ns) = n.chars ++ (',' :: ' ' :: listed ns) := by
  obtain ⟨m, ms, rfl⟩ := List.exists_cons_of_ne_nil h
  unfold listed
  rw [List.map_cons, List.map_cons, List.intercalate_cons_cons, List.append_assoc]
  rfl

theorem listed_singleton (n : Name) : listed [n] = n.chars := List.intercalate_singleton

theorem mem_listed {ns : List Name} {c : Char} (h : c ∈ listed ns) :
    isWord c = true ∨ c = ',' ∨ c = ' ' := by
  induction ns with
  | nil => cases h
  | cons n ns ih =>
    by_cases h0 : ns = []
    · rw [h0, listed_singleton] at h
      exact Or.inl (Name.isWord_of_mem_chars h)
    · rw [listed_cons h0] at h
      rcases List.mem_append.mp h with h | h
      · exact Or.inl (Name.isWord_of_mem_chars h)
      · rcases List.mem_cons.mp h with h | h
        · exact Or.inr (Or.inl h)
        · rcases List.mem_cons.mp h with h | h
          · exact Or.inr (Or.inr h)
          · exact ih h

theorem KeyDecl.print_nil (k : KeyDecl) : k.print [] =
    "CONSTRAINT ".toList ++ k.label.chars ++ " PRIMARY KEY (".toList ++ listed k.names ++
      [')'] := by
  have hnames : k.names.map (·.within []) = k.names.map (·.chars) :=
    List.map_congr_left fun n _ => n.within_nil
  unfold KeyDecl.print listed
  rw [Name.within_nil, hnames]

theorem allPlain_listed (ns : List Name) : AllPlain (listed ns) := by
  intro c hc
  rcases mem_listed hc with h | rfl | rfl
  · exact Or.inl h
  · decide
  · decide

theorem KeyDecl.allPlain (k : KeyDecl) : AllPlain (k.print []) := by
  rw [k.print_nil]
  exact ((((show AllPlain "CONSTRAINT ".toList by decide).append k.label.allPlain).append
    (by decide)).append (allPlain_listed k.names)).append (by decide)

/-! ## items -/

/-- no blank ends the text -/
def SolidEnd (cs : List Char) : Prop := ∀ c, cs.getLast? = some c → isSpace c = false

theorem SolidEnd.nil : SolidEnd [] := fun _ h => nomatch h

theorem SolidEnd.append {a b : List Char} (ha : SolidEnd a) (hb : SolidEnd b) :
    SolidEnd (a ++ b) := by
  intro c hc
  rw [List.getLast?_append] at hc
  rcases Option.or_eq_some_iff.mp hc with h | ⟨_, h⟩
  · exact hb c h
  · exact ha c h

/-- only the end matters -/
theorem SolidEnd.append_left {b : List Char} (hb : SolidEnd b) (hne : b ≠ []) (a : List Char) :
    SolidEnd (a ++ b) := by
  intro c hc
  rw [List.getLast?_append_of_ne_nil a hne] at hc
  exact hb c hc

theorem SolidEnd.concat (a : List Char) {c : Char} (h : isSpace c = false) :
    SolidEnd (a ++ [c]) := by
  intro d hd
  rw [List.getLast?_concat] at hd
  cases hd
  exact h

theorem Name.solidEnd (n : Name) : SolidEnd n.chars := fun _ h =>
  isSpace_of_isWord (isWord_of_mem_chars (List.mem_of_getLast? h))

/-- what the scan has to know of a column or a key: it begins with a letter, ends without a blank,
and its parentheses are balanced -/
structure Item (x : List Char) : Prop where
  head : ∃ c cs, x = c :: cs ∧ isWord c = true
  solidEnd : SolidEnd x
  balance : balance x = 0

theorem balance_chars (n : Name) : balance n.chars = 0 :=
  balance_of_not_mem (Name.not_mem_chars (by decide)) (Name.not_mem_chars (by decide))

theorem balance_listed (ns : List Name) : balance (listed ns) = 0 := by
  have hnot {k : Char} (hk : isWord k = false) (hne : k ≠ ',' ∧ k ≠ ' ') : k ∉ listed ns := by
    intro h
    rcases mem_listed h with h | h | h
    · rw [hk] at h
      cases h
    · exact hne.1 h
    · exact hne.2 h
  exact balance_of_not_mem (hnot (by decide) (by decide)) (hnot (by decide) (by decide))

theorem balance_toDigits (n : Nat) : balance (Nat.toDigits 10 n) = 0 := by
  have hnot {k : Char} (hk : k.isDigit = false) : k ∉ Nat.toDigits 10 n := by
    intro h
    rw [Nat.isDigit_of_mem_toDigits (by decide) (by decide) h] at hk
    cases hk
  exact balance_of_not_mem (hnot (by decide)) (hnot (by decide))

theorem Size.item (s : Size) : SolidEnd s.print ∧ Body.balance s.print = 0 := by
  -- a number between an opening parenthesis and a text that closes it
  have hclosed (p : SizeNumber) {z : List Char} (hz : SolidEnd z) (hb : Body.balance z = -1) :
      SolidEnd ('(' :: Nat.toDigits 10 p ++ z) ∧
        Body.balance ('(' :: Nat.toDigits 10 p ++ z) = 0 := by
    have hdigits : SolidEnd ('(' :: Nat.toDigits 10 p) := by
      refine SolidEnd.append (a := ['(']) (SolidEnd.concat [] (by decide)) fun c hc => ?_
      exact isSpace_of_isDigit (isDigit_of_mem_toDigits (List.mem_of_getLast? hc))
    refine ⟨hdigits.append hz, ?_⟩
    show Body.balance (['('] ++ Nat.toDigits 10 p ++ z) = 0
    rw [balance_append, balance_append, balance_toDigits, hb]
    rfl
  cases s with
  | none => exact ⟨SolidEnd.nil, rfl⟩
  | plain p => exact hclosed p (SolidEnd.concat [] (by decide)) (by decide)
  | scaled p s =>
    have hz : Size.print (.scaled p s) =
        '(' :: Nat.toDigits 10 p ++ ((',' :: Nat.toDigits 10 s) ++ [')']) :=
      List.append_assoc _ _ _
    rw [hz]
    refine hclosed p (SolidEnd.concat _ (by decide)) ?_
    show Body.balance ([','] ++ Nat.toDigits 10 s ++ [')']) = -1
    rw [balance_append, balance_append, balance_toDigits]
    rfl
  | bytes p => exact hclosed p (SolidEnd.concat " BYTE".toList (by decide)) (by decide)
  | chars p => exact hclosed p (SolidEnd.concat " CHAR".toList (by decide)) (by decide)

theorem Mark.item (m : Mark) : SolidEnd m.print ∧ Body.balance m.print = 0 := by
  cases m with
  | none => exact ⟨SolidEnd.nil, rfl⟩
  | notNull => exact ⟨SolidEnd.concat " NOT NUL".toList (by decide), by decide⟩
  | primaryKey => exact ⟨SolidEnd.concat " PRIMARY KE".toList (by decide), by decide⟩

theorem ColumnDecl.item (c : ColumnDecl) : Item (c.print []) where
  head := ⟨c.name.first, _, rfl, Name.isWord_of_mem_chars (List.mem_cons_self ..)⟩
  solidEnd := by
    have htype : SolidEnd (' ' :: c.typeName.chars) :=
      c.typeName.solidEnd.append_left Name.chars_ne_nil [' ']
    unfold ColumnDecl.print
    rw [Name.within_nil]
    exact ((c.name.solidEnd.append htype).append c.size.item.1).append c.mark.item.1
  balance := by
    unfold ColumnDecl.print
    rw [Name.within_nil, balance_append, balance_append, balance_append, c.size.item.2,
      c.mark.item.2, balance_chars]
    show 0 + Body.balance ([' '] ++ c.typeName.chars) + 0 + 0 = 0
    rw [balance_append, balance_chars]
    rfl

theorem KeyDecl.item (k : KeyDecl) : Item (k.print []) where
  head := ⟨'C', _, rfl, by decide⟩
  solidEnd := SolidEnd.concat _ (by decide)
  balance := by
    rw [k.print_nil, balance_append, balance_append, balance_append, balance_append, balance_chars,
      balance_listed]
    rfl

/-! ## one line -/

/-- in the state `s` the line is read as `o`, and the scan goes on at depth one -/
structure Reads (s : Depth) (l : List Char) (o : Option ColumnLine) : Prop where
  counts : isIdle (trim l) = false
  column : (visit s (trim l)).column? = o
  goesOn : (visit s (trim l)).goesOn = some ⟨1, true⟩

theorem reads_of {s : Depth} {l x r : List Char} {n : Nat} (htrim : trim l = x)
    (hidle : isIdle x = false) (hpeel : peel false x = (n, r)) (hdepth : s.depth + n = 1)
    (hhead : r.head? ≠ some ')') (hbal : balance r = 0) :
    Reads s l (ColumnLine.ofLine? (declaration r)) := by
  have hvisit : visit s x = ⟨1, s.opened, r, 1⟩ := by
    unfold visit
    rw [hpeel]
    show Visit.mk (s.depth + (n : Int)) s.opened r (s.depth + (n : Int) + balance r) = _
    rw [hdepth, hbal]
    rfl
  refine ⟨by rw [htrim]; exact hidle, ?_, ?_⟩
  · rw [htrim, hvisit]
    show (if (((1 : Int) = 1 ∨ _) ∧ r.head? ≠ some ')') then some (declaration r)
      else none).bind ColumnLine.ofLine? = _
    rw [if_pos ⟨Or.inl rfl, hhead⟩]
    rfl
  · rw [htrim, hvisit]
    have hnext : (Visit.mk 1 s.opened r 1).next = ⟨1, true⟩ := by
      show Depth.mk 1 (s.opened || true) = _
      rw [Bool.or_true]
    unfold Visit.goesOn
    rw [hnext]
    rfl

/-- lines that are read one after the other, up to the closing parenthesis -/
theorem found_reads {ls : List (List Char)} {os : List (Option ColumnLine)}
    (h : List.Forall₂ (Reads ⟨1, true⟩) ls os) :
    found (some ⟨1, true⟩) (ls ++ [[')']]) = os.filterMap id := by
  induction h with
  | nil => rfl
  | @cons l o ls os hl _ ih =>
    rw [List.cons_append, found_cons hl.counts, hl.column, hl.goesOn, ih, List.filterMap_cons]
    cases o <;> rfl

theorem found_reads_cons {s : Depth} {l : List Char} {o : Option ColumnLine} (hl : Reads s l o)
    {ls : List (List Char)} {os : List (Option ColumnLine)}
    (h : List.Forall₂ (Reads ⟨1, true⟩) ls os) :
    found (some s) (l :: (ls ++ [[')']])) = (o :: os).filterMap id := by
  rw [found_cons hl.counts, hl.column, hl.goesOn, found_reads h, List.filterMap_cons]
  cases o <;> rfl

/-! ## dressed items -/

/-- an item on its line: a comma behind it or none, or a comma and a blank in front of it -/
inductive Dressed (x : List Char) : List Char → Prop
  | behind {z : List Char} (hz : IsComma z) : Dressed x (x ++ z)
  | inFront : Dressed x (',' :: ' ' :: x)

section
variable {x l : List Char}

theorem trim_pad {x : List Char} (hhead : ∀ c, x.head? = some c → isSpace c = false)
    (hend : SolidEnd x) (indent : Nat) : trim (pad indent x) = x := by
  have hblank : ∀ c ∈ List.replicate indent ' ', isSpace c = true := by
    intro c hc
    rw [List.eq_of_mem_replicate hc]
    rfl
  show trimEnd (trimStart (List.replicate indent ' ' ++ x)) = x
  rw [trimStart_blanks_append hblank, trimStart_of_head hhead, trimEnd_of_getLast hend]

theorem Item.head? (hx : Item x) {c : Char} (hc : x.head? = some c) : isWord c = true := by
  obtain ⟨d, ds, rfl, hd⟩ := hx.head
  cases hc
  exact hd

theorem Item.ne_nil (hx : Item x) : x ≠ [] := by
  obtain ⟨d, ds, rfl, _⟩ := hx.head
  exact List.cons_ne_nil d ds

theorem Item.append_comma (hx : Item x) {z : List Char} (hz : IsComma z) : Item (x ++ z) where
  head := by
    obtain ⟨d, ds, rfl, hd⟩ := hx.head
    exact ⟨d, ds ++ z, rfl, hd⟩
  solidEnd := by
    rcases hz with rfl | rfl
    · exact hx.solidEnd.append SolidEnd.nil
    · exact SolidEnd.concat x (by decide)
  balance := by
    rw [balance_append, hx.balance]
    rcases hz with rfl | rfl <;> rfl

/-- a character that begins an item is none of the signs that the scan looks for -/
theorem Item.head_ne (hx : Item x) {k : Char} (hk : isWord k = false) : x.head? ≠ some k := by
  intro h
  rw [hx.head? h] at hk
  cases hk

theorem Item.isIdle (hx : Item x) : isIdle x = false := by
  obtain ⟨d, ds, rfl, hd⟩ := hx.head
  have hdash : ('-' == d) = false := by
    rw [beq_eq_false_iff_ne]
    rintro rfl
    cases hd
  show (false || (('-' == d) && _)) = false
  rw [hdash]
  rfl

theorem Item.peel (hx : Item x) : peel false x = (0, x) := by
  obtain ⟨d, ds, rfl, hd⟩ := hx.head
  refine peel_of_ne ds ?_
  rintro rfl
  cases hd

theorem Item.declaration (hx : Item x) : declaration x = x := by
  obtain ⟨d, ds, rfl, hd⟩ := hx.head
  have hcomma : ¬ decide (d = ',') = true := by
    rw [decide_eq_true_eq]
    rintro rfl
    cases hd
  have hdrop : (d :: ds).dropWhile (· = ',') = d :: ds := List.dropWhile_cons_of_neg hcomma
  unfold Body.declaration
  rw [hdrop]
  exact trimStart_cons_of_not (isSpace_of_isWord hd) ds

/-- an item is read as it stands there, whatever its dress -/
theorem Item.reads (hx : Item x) (hl : Dressed x l) (indent : Nat) :
    ∃ z, IsComma z ∧ Reads ⟨1, true⟩ (pad indent l) (ColumnLine.ofLine? (x ++ z)) := by
  cases hl with
  | @behind z hz =>
    have hxz := hx.append_comma hz
    have hread := reads_of (s := ⟨1, true⟩)
      (trim_pad (fun c hc => isSpace_of_isWord (hxz.head? hc)) hxz.solidEnd indent)
      hxz.isIdle hxz.peel rfl (hxz.head_ne (by decide)) hxz.balance
    rw [hxz.declaration] at hread
    exact ⟨z, hz, hread⟩
  | inFront =>
    have hend : SolidEnd (',' :: ' ' :: x) := hx.solidEnd.append_left hx.ne_nil [',', ' ']
    have hread := reads_of (s := ⟨1, true⟩) (x := ',' :: ' ' :: x) (n := 0) (r := ',' :: ' ' :: x)
      (trim_pad (fun c hc => by cases hc; rfl) hend indent) rfl rfl rfl (fun h => nomatch h) ?_
    · have hdecl : Body.declaration (',' :: ' ' :: x) = x ++ [] := by
        show trimStart x = x ++ []
        rw [List.append_nil]
        exact trimStart_of_head fun c hc => isSpace_of_isWord (hx.head? hc)
      rw [hdecl] at hread
      exact ⟨[], Or.inl rfl, hread⟩
    · show Body.balance ([',', ' '] ++ x) = 0
      rw [balance_append, hx.balance]
      rfl

end

/-! ## all items -/

/-- the item `x` is read as `o`, with a comma behind it or none -/
def ReadAs (x : List Char) (o : Option ColumnLine) : Prop :=
  ∃ z, IsComma z ∧ o = ColumnLine.ofLine? (x ++ z)

theorem reads_items {xs ls : List (List Char)} (hx : ∀ x ∈ xs, Item x)
    (h : List.Forall₂ Dressed xs ls) (indent : Nat) :
    ∃ os, List.Forall₂ (Reads ⟨1, true⟩) (ls.map (pad indent)) os ∧ List.Forall₂ ReadAs xs os := by
  induction h with
  | nil => exact ⟨[], List.Forall₂.nil, List.Forall₂.nil⟩
  | @cons x l xs ls hl _ ih =>
    obtain ⟨os, hreads, has⟩ := ih fun y hy => hx y (List.mem_cons_of_mem x hy)
    obtain ⟨z, hz, hread⟩ := (hx x (List.mem_cons_self ..)).reads hl indent
    exact ⟨_ :: os, List.Forall₂.cons hread hreads, List.Forall₂.cons ⟨z, hz, rfl⟩ has⟩

theorem KeyDecl.ofLine?_print (k : KeyDecl) (z : List Char) :
    ColumnLine.ofLine? (k.print [] ++ z) = none := by
  rw [k.print_nil]
  rfl

/-- the column line that a column is read as -/
def IsLineOf (c : ColumnDecl) (l : ColumnLine) : Prop := ∃ z, IsComma z ∧ l = c.line z

theorem isLineOf_of_readAs {cs : List ColumnDecl} {k : Option KeyDecl}
    {os : List (Option ColumnLine)}
    (h : List.Forall₂ ReadAs (cs.map (·.print []) ++ (k.map (·.print [])).toList) os) :
    List.Forall₂ IsLineOf cs (os.filterMap id) := by
  induction cs generalizing os with
  | nil =>
    have hnone : os.filterMap id = [] := by
      cases k with
      | none =>
        cases h
        rfl
      | some k =>
        obtain ⟨o, os, ⟨z, _, ho⟩, hos, rfl⟩ := List.forall₂_cons_left_iff.mp h
        cases hos
        rw [k.ofLine?_print] at ho
        rw [ho]
        rfl
    rw [hnone]
    exact List.Forall₂.nil
  | cons c cs ih =>
    obtain ⟨o, os, ⟨z, hz, ho⟩, hos, rfl⟩ := List.forall₂_cons_left_iff.mp h
    rw [c.ofLine?_print hz] at ho
    rw [ho]
    exact List.Forall₂.cons ⟨z, hz, rfl⟩ (ih hos)

/-! ## layouts -/

theorem commasBehind_spec (xs : List (List Char)) :
    List.Forall₂ (fun x l => ∃ z, IsComma z ∧ l = x ++ z) xs (commasBehind xs) := by
  induction xs with
  | nil => exact List.Forall₂.nil
  | cons x xs ih =>
    cases xs with
    | nil => exact List.Forall₂.cons ⟨[], Or.inl rfl, (List.append_nil x).symm⟩ List.Forall₂.nil
    | cons y ys => exact List.Forall₂.cons ⟨[','], Or.inr rfl, rfl⟩ ih

theorem dressed_commasBehind (xs : List (List Char)) :
    List.Forall₂ Dressed xs (commasBehind xs) := by
  refine (commasBehind_spec xs).imp ?_
  rintro x l ⟨z, hz, rfl⟩
  exact Dressed.behind hz

theorem dressed_commasInFront (xs : List (List Char)) :
    List.Forall₂ Dressed xs (commasInFront xs) := by
  cases xs with
  | nil => exact List.Forall₂.nil
  | cons x xs =>
    refine List.Forall₂.cons ?_ ?_
    · have h := Dressed.behind (x := x) (z := []) (Or.inl rfl)
      rwa [List.append_nil] at h
    · rw [List.forall₂_map_right_iff]
      exact List.forall₂_same.mpr fun _ _ => Dressed.inFront

theorem Declaration.item_of_mem (d : Declaration) {x : List Char} (h : x ∈ d.items []) :
    Item x ∧ AllPlain x := by
  rcases List.mem_append.mp h with h | h
  · obtain ⟨c, _, rfl⟩ := List.mem_map.mp h
    exact ⟨c.item, c.allPlain⟩
  · obtain ⟨k, _, rfl⟩ := Option.map_eq_some_iff.mp (Option.mem_toList.mp h)
    exact ⟨k.item, k.allPlain⟩

theorem Declaration.exists_items (d : Declaration) : ∃ x xs, d.items [] = x :: xs := by
  obtain ⟨c, cs, hcols⟩ := List.exists_cons_of_ne_nil d.columns_ne
  unfold Declaration.items
  rw [hcols]
  exact ⟨_, _, rfl⟩

/-- an item that opens the body, behind the parenthesis and a tab -/
theorem Item.reads_open {x : List Char} (hx : Item x) (indent : Nat) :
    Reads ⟨0, false⟩ (pad indent ('(' :: '\t' :: x)) (ColumnLine.ofLine? x) := by
  have hend : SolidEnd ('(' :: '\t' :: x) := hx.solidEnd.append_left hx.ne_nil ['(', '\t']
  have hpeel : Body.peel false ('(' :: '\t' :: x) = (1, x) := by
    have hstop : Body.peel true x = (0, x) := by
      obtain ⟨d, ds, rfl, hd⟩ := hx.head
      refine peel_stop ?_ (by rw [isSpace_of_isWord hd]; rfl) ds
      rintro rfl
      cases hd
    rw [peel_open, peel_blank rfl, hstop]
  have hread := reads_of (s := ⟨0, false⟩)
    (trim_pad (fun c hc => by cases hc; rfl) hend indent) rfl hpeel rfl (hx.head_ne (by decide))
    hx.balance
  rwa [hx.declaration] at hread

/-- the state in which the header leaves the scan -/
def Layout.afterHeader : Layout → Depth
  | trailing => ⟨1, true⟩
  | _ => ⟨0, false⟩

theorem found_body (d : Declaration) (indent : Nat) (layout : Layout) :
    List.Forall₂ IsLineOf d.columns
      (found (some layout.afterHeader) (d.body [] indent layout ++ [[')']])) := by
  have hitems : ∀ x ∈ d.items [], Item x := fun x hx => (d.item_of_mem hx).1
  cases layout with
  | trailing =>
    obtain ⟨os, hreads, has⟩ := reads_items hitems (dressed_commasBehind (d.items [])) indent
    have hfound := found_reads hreads
    show List.Forall₂ IsLineOf d.columns (found (some ⟨1, true⟩) (_ ++ _))
    rw [show d.body [] indent .trailing = (commasBehind (d.items [])).map (pad indent) from rfl,
      hfound]
    exact isLineOf_of_readAs has
  | leading =>
    obtain ⟨os, hreads, has⟩ := reads_items hitems (dressed_commasInFront (d.items [])) indent
    have hopen : Reads ⟨0, false⟩ ['('] none :=
      reads_of (x := ['(']) (n := 1) (r := []) rfl rfl rfl rfl (by decide) rfl
    have hfound := found_reads_cons hopen hreads
    show List.Forall₂ IsLineOf d.columns (found (some ⟨0, false⟩) (['('] :: (_ ++ _)))
    have hlines : List.Forall₂ IsLineOf d.columns (os.filterMap id) := isLineOf_of_readAs has
    rw [hfound]
    exact hlines
  | exported =>
    obtain ⟨x, xs, hx⟩ := d.exists_items
    have hspec := commasBehind_spec (d.items [])
    rw [hx] at hspec hitems
    obtain ⟨y, ys, ⟨z, hz, rfl⟩, hys, hlines⟩ := List.forall₂_cons_left_iff.mp hspec
    have hdressed : List.Forall₂ Dressed xs ys := by
      refine hys.imp ?_
      rintro x l ⟨z, hz, rfl⟩
      exact Dressed.behind hz
    obtain ⟨os, hreads, has⟩ :=
      reads_items (fun w hw => hitems w (List.mem_cons_of_mem x hw)) hdressed indent
    have hopen := ((hitems x (List.mem_cons_self ..)).append_comma hz).reads_open indent
    have hall : List.Forall₂ ReadAs (d.items []) (ColumnLine.ofLine? (x ++ z) :: os) := by
      rw [hx]
      exact List.Forall₂.cons ⟨z, hz, rfl⟩ has
    have hbody : d.body [] indent .exported =
        pad indent ('(' :: '\t' :: (x ++ z)) :: ys.map (pad indent) := by
      show (openFirst (commasBehind (d.items []))).map (pad indent) = _
      rw [hx, hlines]
      rfl
    show List.Forall₂ IsLineOf d.columns (found (some ⟨0, false⟩) (_ ++ _))
    rw [hbody, List.cons_append, found_reads_cons hopen hreads]
    exact isLineOf_of_readAs hall

end DdlToJava.Ddl
