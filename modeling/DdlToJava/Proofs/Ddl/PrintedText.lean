import DdlToJava.Proofs.Ddl.PrintedBody

/-!
# The text of a printed statement

What is read from a printed statement as a whole: without its quotes it is the text of its lines
(`unquoted_print`), these declare its columns (`columnLines_print`), and its header names its table
(`ofText_print`).
-/

namespace DdlToJava.Ddl

open Text Body Layout

/-! ## quotes -/

section
variable {q : List Char}

theorem bare_append (a b : List Char) : bare (a ++ b) = bare a ++ bare b := List.filter_append a b

theorem Name.bare_within (hq : bare q = []) (n : Name) : bare (n.within q) = n.within [] := by
  unfold Name.within
  rw [bare_append, bare_append, hq, n.allPlain.bare]

theorem ColumnDecl.bare_print (hq : bare q = []) (c : ColumnDecl) :
    bare (c.print q) = c.print [] := by
  have htype : bare (' ' :: c.typeName.chars) = ' ' :: c.typeName.chars :=
    (AllPlain.append (a := [' ']) (by decide) c.typeName.allPlain).bare
  unfold ColumnDecl.print
  rw [bare_append, bare_append, bare_append, c.name.bare_within hq, c.size.allPlain.bare,
    c.mark.allPlain.bare, htype]

theorem bare_intercalate (hq : bare q = []) (ns : List Name) :
    bare ([',', ' '].intercalate (ns.map (·.within q))) =
      [',', ' '].intercalate (ns.map (·.within [])) := by
  induction ns with
  | nil => rfl
  | cons n ns ih =>
    cases ns with
    | nil =>
      show bare ([',', ' '].intercalate [n.within q]) = [',', ' '].intercalate [n.within []]
      rw [List.intercalate_singleton, List.intercalate_singleton, n.bare_within hq]
    | cons m ms =>
      show bare ([',', ' '].intercalate (n.within q :: m.within q :: ms.map (·.within q))) =
        [',', ' '].intercalate (n.within [] :: m.within [] :: ms.map (·.within []))
      rw [List.intercalate_cons_cons, List.intercalate_cons_cons, bare_append, bare_append,
        n.bare_within hq]
      congr 1

theorem KeyDecl.bare_print (hq : bare q = []) (k : KeyDecl) : bare (k.print q) = k.print [] := by
  unfold KeyDecl.print
  rw [bare_append, bare_append, bare_append, bare_append, k.label.bare_within hq,
    bare_intercalate hq]
  rfl

theorem bare_commasBehind (xs : List (List Char)) :
    (commasBehind xs).map bare = commasBehind (xs.map bare) := by
  induction xs with
  | nil => rfl
  | cons x xs ih =>
    cases xs with
    | nil => rfl
    | cons y ys =>
      show bare (x ++ [',']) :: (commasBehind (y :: ys)).map bare = _
      rw [ih, bare_append]
      rfl

theorem bare_commasInFront (xs : List (List Char)) :
    (commasInFront xs).map bare = commasInFront (xs.map bare) := by
  cases xs with
  | nil => rfl
  | cons x xs =>
    show bare x :: (xs.map (',' :: ' ' :: ·)).map bare =
      bare x :: (xs.map bare).map (',' :: ' ' :: ·)
    rw [List.map_map, List.map_map]
    rfl

theorem bare_openFirst (xs : List (List Char)) :
    (openFirst xs).map bare = openFirst (xs.map bare) := by
  cases xs with
  | nil => rfl
  | cons x xs => rfl

theorem bare_pad (indent : Nat) (xs : List (List Char)) :
    (xs.map (pad indent)).map bare = (xs.map bare).map (pad indent) := by
  have hblank : AllPlain (List.replicate indent ' ') := by
    intro c hc
    rw [List.eq_of_mem_replicate hc]
    decide
  rw [List.map_map, List.map_map]
  refine List.map_congr_left fun x _ => ?_
  show bare (List.replicate indent ' ' ++ x) = List.replicate indent ' ' ++ bare x
  rw [bare_append, hblank.bare]

namespace Declaration

/-- the table with or without its schema -/
def fullName (d : Declaration) : List Char :=
  d.schema.elim [] (fun s => s.chars ++ ['.']) ++ d.table.chars

theorem header_nil (d : Declaration) : d.header [] = "CREATE TABLE ".toList ++ d.fullName := by
  unfold header fullName
  rw [Name.within_nil, List.append_assoc]
  cases d.schema with
  | none => rfl
  | some s =>
    show _ ++ ((s.within [] ++ ['.']) ++ _) = _
    rw [Name.within_nil]
    rfl

theorem bare_header (hq : bare q = []) (d : Declaration) : bare (d.header q) = d.header [] := by
  unfold header
  rw [bare_append, bare_append, d.table.bare_within hq]
  cases d.schema with
  | none => rfl
  | some s =>
    show _ ++ bare (s.within q ++ ['.']) ++ _ = _ ++ (s.within [] ++ ['.']) ++ _
    rw [bare_append, s.bare_within hq]
    rfl

theorem bare_items (hq : bare q = []) (d : Declaration) : (d.items q).map bare = d.items [] := by
  have hcols : (d.columns.map (·.print q)).map bare = d.columns.map (·.print []) := by
    rw [List.map_map]
    exact List.map_congr_left fun c _ => c.bare_print hq
  unfold items
  rw [List.map_append, hcols]
  cases d.key with
  | none => rfl
  | some k =>
    show _ ++ [bare (k.print q)] = _ ++ [k.print []]
    rw [k.bare_print hq]

theorem bare_body (hq : bare q = []) (indent : Nat) (d : Declaration) (layout : Layout) :
    (d.body q indent layout).map bare = d.body [] indent layout := by
  cases layout with
  | trailing =>
    show ((commasBehind (d.items q)).map (pad indent)).map bare = _
    rw [bare_pad, bare_commasBehind, d.bare_items hq]
    rfl
  | leading =>
    show ['('] :: ((commasInFront (d.items q)).map (pad indent)).map bare = _
    rw [bare_pad, bare_commasInFront, d.bare_items hq]
    rfl
  | exported =>
    show ((openFirst (commasBehind (d.items q))).map (pad indent)).map bare = _
    rw [bare_pad, bare_openFirst, bare_commasBehind, d.bare_items hq]
    rfl

theorem bare_lines (hq : bare q = []) (indent : Nat) (layout : Layout) (d : Declaration) :
    (d.lines q indent layout).map bare = d.lines [] indent layout := by
  unfold lines
  rw [List.map_cons, List.map_append, d.bare_body hq, bare_append, d.bare_header hq]
  cases layout <;> rfl

/-- without its quotes, a printed statement is the text of its lines with bare names -/
theorem unquoted_print (layout : Layout) (indent : Nat) (d : Declaration) :
    unquoted (d.print layout indent) = joined (d.lines [] indent layout) := by
  have hq : bare layout.quote = [] := by
    cases layout <;> rfl
  unfold print
  rw [unquoted_written, d.bare_lines hq]

end Declaration

end

/-! ## the columns -/

namespace Declaration

theorem mem_fullName {d : Declaration} {c : Char} (h : c ∈ d.fullName) :
    isWord c = true ∨ (c = '.' ∧ d.schema ≠ none) := by
  unfold fullName at h
  rcases List.mem_append.mp h with h | h
  · cases hs : d.schema with
    | none =>
      rw [hs] at h
      cases h
    | some s =>
      rw [hs] at h
      rcases List.mem_append.mp h with h | h
      · exact Or.inl (Name.isWord_of_mem_chars h)
      · exact Or.inr ⟨List.mem_singleton.mp h, by intro h0; cases h0⟩
  · exact Or.inl (Name.isWord_of_mem_chars h)

theorem mem_header {d : Declaration} {c : Char} (h : c ∈ d.header []) :
    Plain c ∨ (c = '.' ∧ d.schema ≠ none) := by
  rw [d.header_nil] at h
  rcases List.mem_append.mp h with h | h
  · have hall : AllPlain "CREATE TABLE ".toList := by decide
    exact Or.inl (hall c h)
  · rcases mem_fullName h with h | h
    · exact Or.inl (Or.inl h)
    · exact Or.inr h

/-- a character of a line of the body -/
def Inline (c : Char) : Prop := Plain c ∨ c = '\t'

theorem inline_pad {x : List Char} (hx : ∀ c ∈ x, Inline c) (indent : Nat) :
    ∀ c ∈ pad indent x, Inline c := by
  intro c hc
  rcases List.mem_append.mp hc with hc | hc
  · rw [List.eq_of_mem_replicate hc]
    exact Or.inl (by decide)
  · exact hx c hc

/-- the dress of an item adds commas and blanks only -/
theorem inline_dressed {xs ls : List (List Char)} (hx : ∀ x ∈ xs, AllPlain x)
    (h : List.Forall₂ Dressed xs ls) : ∀ l ∈ ls, ∀ c ∈ l, Inline c := by
  induction h with
  | nil => exact List.forall_mem_nil _
  | @cons x l xs ls hl _ ih =>
    intro m hm
    rcases List.mem_cons.mp hm with rfl | hm
    · have hxp := hx x (List.mem_cons_self ..)
      have hm : AllPlain m := by
        cases hl with
        | behind hz =>
          refine hxp.append ?_
          rcases hz with rfl | rfl <;> decide
        | inFront => exact AllPlain.append (a := [',', ' ']) (by decide) hxp
      exact fun c hc => Or.inl (hm c hc)
    · exact ih (fun y hy => hx y (List.mem_cons_of_mem x hy)) m hm

theorem inline_body (d : Declaration) (indent : Nat) (layout : Layout) :
    ∀ l ∈ d.body [] indent layout, ∀ c ∈ l, Inline c := by
  have hitems : ∀ x ∈ d.items [], AllPlain x := fun x hx => (d.item_of_mem hx).2
  have hbehind := inline_dressed hitems (dressed_commasBehind (d.items []))
  intro l hl
  cases layout with
  | trailing =>
    obtain ⟨x, hx, rfl⟩ := List.mem_map.mp hl
    exact inline_pad (hbehind x hx) indent
  | leading =>
    rcases List.mem_cons.mp hl with rfl | hl
    · intro c hc
      rw [List.mem_singleton.mp hc]
      exact Or.inl (by decide)
    · obtain ⟨x, hx, rfl⟩ := List.mem_map.mp hl
      exact inline_pad (inline_dressed hitems (dressed_commasInFront (d.items [])) x hx) indent
  | exported =>
    obtain ⟨x, hx, rfl⟩ := List.mem_map.mp hl
    refine inline_pad (fun c hc => ?_) indent
    cases hls : commasBehind (d.items []) with
    | nil =>
      rw [hls] at hx
      cases hx
    | cons y ys =>
      rw [hls] at hx hbehind
      rcases List.mem_cons.mp hx with rfl | hx
      · rcases List.mem_cons.mp hc with rfl | hc
        · exact Or.inl (by decide)
        · rcases List.mem_cons.mp hc with rfl | hc
          · exact Or.inr rfl
          · exact hbehind y (List.mem_cons_self ..) c hc
      · exact hbehind x (List.mem_cons_of_mem y hx) c hc

/-- the characters of a printed line; a point stands only behind a schema -/
theorem mem_lines {d : Declaration} {indent : Nat} {layout : Layout} {l : List Char}
    (hl : l ∈ d.lines [] indent layout) {c : Char} (hc : c ∈ l) :
    Inline c ∨ (c = '.' ∧ d.schema ≠ none) := by
  rcases List.mem_cons.mp hl with rfl | hl
  · rcases List.mem_append.mp hc with hc | hc
    · exact (mem_header hc).imp_left Or.inl
    · have hall : AllPlain layout.behindHeader := by
        cases layout <;> decide
      exact Or.inl (Or.inl (hall c hc))
  · rcases List.mem_append.mp hl with hl | hl
    · exact Or.inl (d.inline_body indent layout l hl c hc)
    · rw [List.mem_singleton.mp hl] at hc
      rw [List.mem_singleton.mp hc]
      exact Or.inl (Or.inl (by decide))

theorem noBreak_lines (d : Declaration) (indent : Nat) (layout : Layout) :
    ∀ l ∈ d.lines [] indent layout, NoBreak l := by
  intro l hl c hc
  rcases mem_lines hl hc with (h | rfl) | ⟨rfl, _⟩
  · exact h.isLineBreak
  · rfl
  · rfl

/-- the header declares no column; behind it the parenthesis is open if it stands there -/
theorem found_header {x r : List Char} (hx : x = "CREATE ".toList ++ r) (hend : SolidEnd x)
    (ls : List (List Char)) :
    found (some {}) (x :: ls) = found (some ⟨balance x, decide (0 < balance x)⟩) ls := by
  have htrim : trim x = x :=
    trim_pad (fun c hc => by rw [hx] at hc; cases hc; rfl) hend 0
  have hidle : isIdle (trim x) = false := by
    rw [htrim, hx]
    rfl
  have hpeel : peel false x = (0, x) := by
    rw [hx]
    exact peel_of_ne _ (by decide)
  have hvisit : visit {} x = ⟨0, false, x, balance x⟩ := by
    unfold visit
    rw [hpeel]
    show Visit.mk 0 false x (0 + balance x) = _
    rw [Int.zero_add]
  have hcolumn : (visit {} (trim x)).column? = none := by
    rw [htrim, hvisit]
    show (if _ then some (declaration x) else none).bind ColumnLine.ofLine? = none
    split
    · rw [hx]
      rfl
    · rfl
  have hgoes : (visit {} (trim x)).goesOn = some ⟨balance x, decide (0 < balance x)⟩ := by
    rw [htrim, hvisit]
    have hclosed : (Depth.mk (balance x) (decide (0 < balance x))).closed = false := by
      show (decide (0 < balance x) && decide (balance x ≤ 0)) = false
      rw [Bool.and_eq_false_iff, decide_eq_false_iff_not, decide_eq_false_iff_not]
      omega
    show (if (Depth.mk (balance x) (false || (false || decide (0 < balance x)))).closed = true
      then none else some (Depth.mk _ _)) = _
    rw [Bool.false_or, Bool.false_or, hclosed]
    rfl
  rw [found_cons hidle, hcolumn, hgoes]
  rfl

theorem balance_fullName (d : Declaration) : balance d.fullName = 0 := by
  have hnot {k : Char} (hk : isWord k = false) (hne : k ≠ '.') : k ∉ d.fullName := by
    intro h
    rcases mem_fullName h with h | ⟨h, _⟩
    · rw [hk] at h
      cases h
    · exact hne h
  exact balance_of_not_mem (hnot (by decide) (by decide)) (hnot (by decide) (by decide))

theorem solidEnd_fullName (d : Declaration) : SolidEnd d.fullName := by
  intro c hc
  rcases mem_fullName (List.mem_of_getLast? hc) with h | ⟨rfl, _⟩
  · exact isSpace_of_isWord h
  · rfl

theorem fullName_ne_nil (d : Declaration) : d.fullName ≠ [] :=
  List.append_ne_nil_of_right_ne_nil _ Name.chars_ne_nil

/-- the columns are read in their order, each with a comma behind it or none -/
theorem columnLines_print (layout : Layout) (indent : Nat) (d : Declaration) :
    List.Forall₂ IsLineOf d.columns (columnLines (unquoted (d.print layout indent))) := by
  rw [d.unquoted_print, columnLines_joined (d.noBreak_lines indent layout)]
  have hbody := found_body d indent layout
  have hend : SolidEnd (d.header []) := by
    rw [d.header_nil]
    exact d.solidEnd_fullName.append_left d.fullName_ne_nil _
  have hbal : balance (d.header []) = 0 := by
    rw [d.header_nil, balance_append, d.balance_fullName]
    rfl
  have hfront : d.header [] = "CREATE ".toList ++ ("TABLE ".toList ++ d.fullName) := by
    rw [d.header_nil, ← List.append_assoc]
    rfl
  -- only the trailing layout opens the body on the line of the header
  have hplain : found (some {}) ((d.header [] ++ []) :: (d.body [] indent layout ++ [[')']])) =
      found (some ⟨0, false⟩) (d.body [] indent layout ++ [[')']]) := by
    rw [List.append_nil, found_header hfront hend, hbal]
    rfl
  cases layout with
  | trailing =>
    have hopen : balance (d.header [] ++ [' ', '(']) = 1 := by
      rw [balance_append, hbal]
      rfl
    have hend' : SolidEnd (d.header [] ++ [' ', '(']) := by
      have h := SolidEnd.concat (d.header [] ++ [' ']) (c := '(') (by decide)
      rwa [List.append_assoc] at h
    have hfront' : d.header [] ++ [' ', '('] =
        "CREATE ".toList ++ ("TABLE ".toList ++ d.fullName ++ [' ', '(']) := by
      rw [hfront, List.append_assoc]
    show List.Forall₂ IsLineOf d.columns (found (some {}) ((d.header [] ++ [' ', '(']) :: _))
    rw [found_header hfront' hend', hopen]
    exact hbody
  | leading =>
    show List.Forall₂ IsLineOf d.columns (found (some {}) ((d.header [] ++ []) :: _))
    rw [hplain]
    exact hbody
  | exported =>
    show List.Forall₂ IsLineOf d.columns (found (some {}) ((d.header [] ++ []) :: _))
    rw [hplain]
    exact hbody

end Declaration

end DdlToJava.Ddl
