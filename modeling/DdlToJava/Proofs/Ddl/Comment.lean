import DdlToJava.Proofs.Ddl.Remark
import DdlToJava.Proofs.Ddl.Settled

/-!
# Comments

A comment line, or a comment behind a line, is no part of any column: `columnLines_insert` and
`columnLines_behind`.  The header, the key clause, the key marks and the count of parentheses are
read from the whole text, though, comments included.  So a comment can change what a statement
gives in four ways, and `comment_inert_iff` says that there is no other:

* a header begins in it, or is cut in two by it;
* a key clause begins in it, or is cut in two by it;
* it stands behind a column and holds a key mark;
* it stands behind a line of the body and its parentheses are not balanced.
-/

namespace DdlToJava.Ddl

open Text Body

/-! ## texts of lines -/

/-- a comment -/
def comment (c : List Char) : List Char := '-' :: '-' :: ' ' :: c

theorem bare_comment (c : List Char) : bare (comment c) = comment (bare c) := rfl

theorem bare_append_comment (l c : List Char) :
    bare (l ++ ' ' :: comment c) = bare l ++ ' ' :: comment (bare c) :=
  List.filter_append l (' ' :: comment c)

theorem noBreak_comment {c : List Char} (h : NoBreak c) : NoBreak (comment c) :=
  NoBreak.append (a := ['-', '-', ' ']) (by decide) h

theorem noBreak_append_comment {l c : List Char} (hl : NoBreak l) (hc : NoBreak c) :
    NoBreak (l ++ ' ' :: comment c) :=
  hl.append (NoBreak.append (a := [' ', '-', '-', ' ']) (by decide) hc)

theorem balance_bare (c : List Char) : balance (bare c) = balance c := by
  unfold balance bare
  rw [List.count_filter (by decide), List.count_filter (by decide)]

/-! ## trimmed lines -/

theorem trim_comment (c : List Char) :
    trim (comment c) = '-' :: '-' :: trimEnd (' ' :: c) := by
  show trimEnd (trimStart ('-' :: _)) = _
  rw [trimStart_cons_of_not (by decide)]
  exact trimEnd_append_of_eq (a := ['-', '-']) (by decide) (' ' :: c)

theorem isIdle_trim_comment (c : List Char) : isIdle (trim (comment c)) = true := by
  rw [trim_comment]
  rfl

/-- a comment behind a trimmed line is a remark -/
theorem trim_append_comment {l : List Char} (h : trimStart l ≠ []) (c : List Char) :
    ∃ w, trim (l ++ ' ' :: comment c) = trim l ++ w ∧ Remark w ∧ balance w = balance c ∧
      (Silent c → Silent w) := by
  obtain ⟨ws, hl, hws⟩ := exists_trimEnd_append_blanks (trimStart l)
  have hblanks : ∀ d ∈ ws ++ [' '], isSpace d = true := by
    intro d hd
    rcases List.mem_append.mp hd with hd | hd
    · exact hws d hd
    · rw [List.mem_singleton.mp hd]
      rfl
  refine ⟨(ws ++ [' ']) ++ '-' :: '-' :: trimEnd (' ' :: c), ?_,
    Remark.of_dash hblanks (List.append_ne_nil_of_right_ne_nil _ (List.cons_ne_nil _ _)) _, ?_, ?_⟩
  · have hcat : trimStart l ++ ' ' :: comment c =
        (trim l ++ (ws ++ [' ', '-', '-'])) ++ ' ' :: c := by
      conv => lhs; rw [hl]
      show (trim l ++ ws) ++ _ = _
      rw [List.append_assoc, List.append_assoc, List.append_assoc]
      rfl
    have hend : trimEnd (trim l ++ (ws ++ [' ', '-', '-'])) =
        trim l ++ (ws ++ [' ', '-', '-']) := by
      have h3 : trim l ++ (ws ++ [' ', '-', '-']) = (trim l ++ (ws ++ [' ', '-'])) ++ ['-'] := by
        rw [List.append_assoc, List.append_assoc]
        rfl
      rw [h3]
      exact trimEnd_concat_of_not (by decide) _
    show trimEnd (trimStart (l ++ ' ' :: comment c)) = _
    rw [trimStart_append_of_ne_nil h, hcat, trimEnd_append_of_eq hend, List.append_assoc,
      List.append_assoc, List.append_assoc]
    rfl
  · rw [balance_append, balance_of_blanks hblanks, Int.zero_add]
    show balance (['-', '-'] ++ trimEnd ([' '] ++ c)) = balance c
    rw [balance_append, balance_trimEnd, balance_append]
    show 0 + (0 + balance c) = balance c
    rw [Int.zero_add, Int.zero_add]
  · intro hc
    obtain ⟨bs, hbs, _⟩ := exists_trimEnd_append_blanks (' ' :: c)
    have hz : Silent (trimEnd (' ' :: c)) := by
      apply Silent.of_append (z := bs)
      rw [← hbs]
      exact hc.cons (by decide) (by decide)
    exact ((hz.cons (by decide) (by decide)).cons (by decide) (by decide)).blanks_append hblanks

/-- a comment behind a line does not change whether the line counts -/
theorem isIdle_trim_append_comment (l c : List Char) :
    isIdle (trim (l ++ ' ' :: comment c)) = isIdle (trim l) := by
  by_cases h : trimStart l = []
  · have hl : trim l = [] := by
      show trimEnd (trimStart l) = []
      rw [h]
      rfl
    have hc : trim (l ++ ' ' :: comment c) = trim (comment c) := by
      show trimEnd (trimStart (l ++ ' ' :: comment c)) = trimEnd (trimStart (comment c))
      rw [trimStart_append_of_nil h]
      rfl
    rw [hl, hc, isIdle_trim_comment]
    rfl
  · obtain ⟨w, htrim, hw, _⟩ := trim_append_comment h c
    have hl : trim l ≠ [] := by
      intro h0
      obtain ⟨ws, hcat, hws⟩ := exists_trimEnd_append_blanks (trimStart l)
      have hblank : trimStart l = ws := by
        rw [hcat]
        show trim l ++ ws = ws
        rw [h0]
        rfl
      apply h
      rw [← trimStart_trimStart, hblank]
      exact trimStart_blanks hws
    rw [htrim, isIdle_apart hw.apart hl]

/-! ## the lines of columns -/

theorem noBreak_lines {above below : List (List Char)} {l : List Char}
    (habove : ∀ m ∈ above, NoBreak m) (hbelow : ∀ m ∈ below, NoBreak m) (hl : NoBreak l) :
    ∀ m ∈ above ++ l :: below, NoBreak m := by
  intro m hm
  rcases List.mem_append.mp hm with hm | hm
  · exact habove m hm
  · rcases List.mem_cons.mp hm with rfl | hm
    · exact hl
    · exact hbelow m hm

section
variable {above below : List (List Char)} {l c : List Char}

/-- an inserted comment line is no column line and moves none -/
theorem columnLines_insert (habove : ∀ m ∈ above, NoBreak m) (hbelow : ∀ m ∈ below, NoBreak m)
    (hc : NoBreak c) :
    columnLines (joined (above ++ comment c :: below)) = columnLines (joined (above ++ below)) := by
  have hplain : ∀ m ∈ above ++ below, NoBreak m := by
    intro m hm
    rcases List.mem_append.mp hm with hm | hm
    · exact habove m hm
    · exact hbelow m hm
  rw [columnLines_joined hplain,
    columnLines_joined (noBreak_lines habove hbelow (noBreak_comment hc)),
    found_append, found_append, found_idle (isIdle_trim_comment c)]

/-- the scan does not read the line: it is blank or a comment, or the body is closed above it -/
def Unread (above : List (List Char)) (l : List Char) : Prop :=
  endState {} (above.map trim) = none ∨ isIdle (trim l) = true

theorem columnLines_unread (habove : ∀ m ∈ above, NoBreak m) (hbelow : ∀ m ∈ below, NoBreak m)
    (hl : NoBreak l) (hc : NoBreak c) (hu : Unread above l) :
    columnLines (joined (above ++ (l ++ ' ' :: comment c) :: below)) =
      columnLines (joined (above ++ l :: below)) := by
  rw [columnLines_joined (noBreak_lines habove hbelow hl),
    columnLines_joined (noBreak_lines habove hbelow (noBreak_append_comment hl hc)),
    found_append, found_append]
  rcases hu with hn | hi
  · rw [hn]
    rfl
  · rw [found_idle hi, found_idle (by rw [isIdle_trim_append_comment]; exact hi)]

/-- the visit with another depth after the line -/
def Body.Visit.moved (d : Int) (v : Visit) : Visit := { v with after := v.after + d }

theorem Body.Visit.goesOn_eq {u v : Visit} (hdepth : u.depth = v.depth)
    (hopened : u.opened = v.opened) (hafter : u.after = v.after) : u.goesOn = v.goesOn := by
  have hnext : u.next = v.next := by
    unfold Visit.next Visit.opens
    rw [hdepth, hopened, hafter]
  unfold Visit.goesOn
  rw [hnext]

/-- a comment behind a line that is read stays behind its column, and moves the depth below it -/
theorem columnLines_read (habove : ∀ m ∈ above, NoBreak m) (hbelow : ∀ m ∈ below, NoBreak m)
    (hl : NoBreak l) (hc : NoBreak c) {s : Depth} (hs : endState {} (above.map trim) = some s)
    (hi : isIdle (trim l) = false) :
    ∃ w, Remark w ∧ (Silent c → Silent w) ∧
      columnLines (joined (above ++ l :: below)) = found (some {}) above ++
        ((visit s (trim l)).column?.toList ++ found (visit s (trim l)).goesOn below) ∧
      columnLines (joined (above ++ (l ++ ' ' :: comment c) :: below)) = found (some {}) above ++
        (((visit s (trim l)).column?.map (·.behind w)).toList ++
          found ((visit s (trim l)).moved (balance c)).goesOn below) := by
  have hne : trimStart l ≠ [] := by
    intro h0
    have : isIdle (trimEnd (trimStart l)) = false := hi
    rw [h0] at this
    cases this
  obtain ⟨w, htrim, hw, hbal, hsilent⟩ := trim_append_comment hne c
  obtain ⟨hdepth, hafter, hcolumn⟩ := visit_remark hw s (trim l)
  refine ⟨w, hw, hsilent, ?_, ?_⟩
  · rw [columnLines_joined (noBreak_lines habove hbelow hl), found_append, hs, found_cons hi]
  · have hi' : isIdle (trim (l ++ ' ' :: comment c)) = false := by
      rw [isIdle_trim_append_comment]
      exact hi
    have hgoes : (visit s (trim l ++ w)).goesOn = ((visit s (trim l)).moved (balance c)).goesOn :=
      Visit.goesOn_eq hdepth rfl (by rw [hafter, hbal]; rfl)
    rw [columnLines_joined (noBreak_lines habove hbelow (noBreak_append_comment hl hc)),
      found_append, hs, found_cons hi', htrim, hcolumn, hgoes]

/-! ## the name and the key -/

theorem apart_fed (ls : List (List Char)) : Apart (fed ls) := by
  cases ls with
  | nil => exact Apart.nil
  | cons l ls => exact Apart.cons (by decide) _

theorem Silent.comment (hc : Silent c) : Silent (comment c) :=
  ((hc.cons (by decide) (by decide)).cons (by decide) (by decide)).cons (by decide) (by decide)

/-- a silent comment line below a settled place changes neither the name nor the key -/
theorem name_key_insert (below : List (List Char)) (ha : Settled (joined above)) (hc : Silent c) :
    TableName.ofText (joined (above ++ comment c :: below)) =
        TableName.ofText (joined (above ++ below)) ∧
      tableKey (joined (above ++ comment c :: below)) = tableKey (joined (above ++ below)) := by
  by_cases h0 : above = []
  · have hnew : joined (comment c :: below) = [] ++ (comment c ++ fed below) := by
      have h1 := joined_append_cons [] [] (comment c) below
      rwa [show joined ([] ++ [[]]) = [] from rfl] at h1
    have hplain : TableName.ofText (fed below) = TableName.ofText (joined below) ∧
        tableKey (fed below) = tableKey (joined below) := by
      by_cases hb : below = []
      · rw [hb]
        exact ⟨rfl, rfl⟩
      · rw [fed_eq hb]
        exact ⟨TableName.ofText_newline _, tableKey_newline _⟩
    rw [h0, List.nil_append, List.nil_append, hnew, ← hplain.1, ← hplain.2]
    have hsettled : Settled [] := by decide
    exact ⟨TableName.ofText_between hsettled hc.comment (fun h => absurd rfl h) (apart_fed below),
      tableKey_between hsettled hc.comment (fun h => absurd rfl h) (apart_fed below)⟩
  · have hnew : joined (above ++ comment c :: below) =
        joined above ++ (('\n' :: comment c) ++ fed below) := by
      rw [joined_append_fed h0]
      rfl
    have hsilent : Silent ('\n' :: comment c) := hc.comment.cons (by decide) (by decide)
    have hapart : Apart (('\n' :: comment c) ++ fed below) := Apart.cons (by decide) _
    rw [hnew, joined_append_fed h0]
    exact ⟨TableName.ofText_between ha hsilent (fun _ => hapart) (apart_fed below),
      tableKey_between ha hsilent (fun _ => hapart) (apart_fed below)⟩

/-- neither does a silent comment behind a settled line -/
theorem name_key_behind (below : List (List Char)) (ha : Settled (joined (above ++ [l])))
    (hc : Silent c) :
    TableName.ofText (joined (above ++ (l ++ ' ' :: comment c) :: below)) =
        TableName.ofText (joined (above ++ l :: below)) ∧
      tableKey (joined (above ++ (l ++ ' ' :: comment c) :: below)) =
        tableKey (joined (above ++ l :: below)) := by
  have hplain : joined (above ++ l :: below) = joined (above ++ [l]) ++ fed below := by
    have h1 := joined_append_cons above l [] below
    rwa [List.append_nil] at h1
  have hsilent : Silent (' ' :: comment c) := hc.comment.cons (by decide) (by decide)
  have hapart : Apart ((' ' :: comment c) ++ fed below) := Apart.cons (by decide) _
  rw [joined_append_cons above l (' ' :: comment c) below, hplain]
  exact ⟨TableName.ofText_between ha hsilent (fun _ => hapart) (apart_fed below),
    tableKey_between ha hsilent (fun _ => hapart) (apart_fed below)⟩

/-! ## the result -/

/-- the line `m` is the line `l`, perhaps with a remark behind it -/
def Behind (w : List Char) (l m : ColumnLine) : Prop := m = l ∨ m = l.behind w

theorem Behind.same {w : List Char} {l m : ColumnLine} (h : Behind w l m) :
    SameDeclaration l m := by
  rcases h with rfl | rfl
  · exact SameDeclaration.refl m
  · exact ⟨rfl, rfl, rfl⟩

/-- a line with a remark behind it among others -/
theorem forall₂_behind (w : List Char) (a : List ColumnLine) (o : Option ColumnLine)
    (b : List ColumnLine) :
    List.Forall₂ (Behind w) (a ++ (o.toList ++ b)) (a ++ ((o.map (·.behind w)).toList ++ b)) := by
  have hrefl (ls : List ColumnLine) : List.Forall₂ (Behind w) ls ls :=
    List.forall₂_same.mpr fun _ _ => Or.inl rfl
  refine List.rel_append (hrefl a) (List.rel_append ?_ (hrefl b))
  cases o with
  | none => exact List.Forall₂.nil
  | some l => exact List.Forall₂.cons (Or.inr rfl) List.Forall₂.nil

theorem map_isKeyLine_behind {w : List Char} (hw : Remark w) (hs : Silent w)
    {ls ms : List ColumnLine} (h : List.Forall₂ (Behind w) ls ms) (keys : List String) :
    ms.map (isKeyLine keys) = ls.map (isKeyLine keys) := by
  induction h with
  | nil => rfl
  | @cons l m ls ms hl _ ih =>
    rw [List.map_cons, List.map_cons, ih]
    congr 1
    rcases hl with rfl | rfl
    · rfl
    · rw [isKeyLine_behind hw, hs.hasKeyMark, Bool.or_false]

theorem keyFlags_behind {w x y : List Char} (hw : Remark w) (hs : Silent w)
    (hlines : List.Forall₂ (Behind w) (columnLines x) (columnLines y))
    (hkey : tableKey y = tableKey x) : keyFlags y = keyFlags x := by
  have hkept := (splitRepeated_forall₂ (fun _ _ h => (Behind.same h).name) hlines []).1
  unfold keyFlags
  rw [hkey]
  exact map_isKeyLine_behind hw hs hkept _

/-- the commented lines give what the plain lines give -/
def Inert (rules : Rules) (plain commented : List (List Char)) : Prop :=
  Table.ofDdl rules (written commented) = Table.ofDdl rules (written plain)

/-- the plain lines have a fault, or the commented lines name the same table and the same key -/
def FaultOrSame (rules : Rules) (plain commented : List (List Char)) : Prop :=
  (∃ e, Table.ofDdl rules (written plain) = .error e) ∨
    (TableName.ofText (unquoted (written commented)) = TableName.ofText (unquoted (written plain)) ∧
      keyFlags (unquoted (written commented)) = keyFlags (unquoted (written plain)))

theorem inert_iff {rules : Rules} {plain commented : List (List Char)} {w : List Char}
    (h : List.Forall₂ (Behind w) (columnLines (unquoted (written plain)))
      (columnLines (unquoted (written commented)))) :
    Inert rules plain commented ↔ FaultOrSame rules plain commented :=
  ofDdl_eq_iff (h.imp fun _ _ => Behind.same)

theorem inert_of_silent {rules : Rules} {plain commented : List (List Char)} {w : List Char}
    (hw : Remark w) (hs : Silent w)
    (h : List.Forall₂ (Behind w) (columnLines (unquoted (written plain)))
      (columnLines (unquoted (written commented))))
    (hname : TableName.ofText (unquoted (written commented)) =
      TableName.ofText (unquoted (written plain)))
    (hkey : tableKey (unquoted (written commented)) = tableKey (unquoted (written plain))) :
    Inert rules plain commented :=
  (inert_iff h).mpr (Or.inr ⟨hname, keyFlags_behind hw hs h hkey⟩)

theorem forall₂_behind_of_eq {ls ms : List ColumnLine} (h : ms = ls) :
    List.Forall₂ (Behind []) ls ms := by
  rw [h]
  exact List.forall₂_same.mpr fun _ _ => Or.inl rfl

/-- a balanced comment, or one that is not read, is at most a remark behind a column -/
theorem columnLines_behind (habove : ∀ m ∈ above, NoBreak m) (hbelow : ∀ m ∈ below, NoBreak m)
    (hl : NoBreak l) (hc : NoBreak c) (hd : balance c = 0 ∨ Unread above l) :
    ∃ w, Remark w ∧ (Silent c → Silent w) ∧
      List.Forall₂ (Behind w) (columnLines (joined (above ++ l :: below)))
        (columnLines (joined (above ++ (l ++ ' ' :: comment c) :: below))) := by
  by_cases hu : Unread above l
  · refine ⟨[], Remark.of_blanks (List.forall_mem_nil _), fun _ => by decide, ?_⟩
    exact forall₂_behind_of_eq (columnLines_unread habove hbelow hl hc hu)
  · have hbal : balance c = 0 := hd.resolve_right hu
    obtain ⟨hn, hi⟩ := not_or.mp hu
    obtain ⟨s, hs⟩ := Option.ne_none_iff_exists'.mp hn
    obtain ⟨w, hw, hws, hplain, hcommented⟩ :=
      columnLines_read habove hbelow hl hc hs (Bool.eq_false_iff.mpr hi)
    have hmoved : (visit s (trim l)).moved (balance c) = visit s (trim l) := by
      rw [hbal]
      unfold Visit.moved
      rw [Int.add_zero]
    refine ⟨w, hw, hws, ?_⟩
    rw [hplain, hcommented, hmoved]
    exact forall₂_behind w _ _ _

theorem noBreak_map_bare {ls : List (List Char)} (h : ∀ m ∈ ls, NoBreak m) :
    ∀ m ∈ ls.map bare, NoBreak m := by
  intro m hm
  obtain ⟨n, hn, rfl⟩ := List.mem_map.mp hm
  exact (h n hn).filter _

theorem unquoted_lines (above below : List (List Char)) (x : List Char) :
    unquoted (written (above ++ x :: below)) =
      joined (above.map bare ++ bare x :: below.map bare) := by
  rw [unquoted_written, List.map_append, List.map_cons]

/-- **When a comment is inert.**  A comment line, or a comment behind a line whose parentheses are
balanced or that the scan does not read, changes nothing exactly when the name of the table and the
key stay the same.  They do when the comment is silent and the place in front of it is settled.
Behind a line that is read, a comment that is not balanced moves the depth of all lines below. -/
theorem comment_inert_iff (rules : Rules) {above below : List (List Char)} {l c : List Char}
    (habove : ∀ m ∈ above, NoBreak m) (hbelow : ∀ m ∈ below, NoBreak m) (hl : NoBreak l)
    (hc : NoBreak c) :
    (Inert rules (above ++ below) (above ++ comment c :: below) ↔
      FaultOrSame rules (above ++ below) (above ++ comment c :: below)) ∧
    (Settled (unquoted (written above)) → Silent (bare c) →
      Inert rules (above ++ below) (above ++ comment c :: below)) ∧
    (balance c = 0 ∨ Unread (above.map bare) (bare l) →
      (Inert rules (above ++ l :: below) (above ++ (l ++ ' ' :: comment c) :: below) ↔
        FaultOrSame rules (above ++ l :: below) (above ++ (l ++ ' ' :: comment c) :: below)) ∧
      (Settled (unquoted (written (above ++ [l]))) → Silent (bare c) →
        Inert rules (above ++ l :: below) (above ++ (l ++ ' ' :: comment c) :: below))) ∧
    (∀ s, endState {} ((above.map bare).map trim) = some s → isIdle (trim (bare l)) = false →
      ∃ w, Remark w ∧
        columnLines (unquoted (written (above ++ l :: below))) =
          found (some {}) (above.map bare) ++ ((visit s (trim (bare l))).column?.toList ++
            found (visit s (trim (bare l))).goesOn (below.map bare)) ∧
        columnLines (unquoted (written (above ++ (l ++ ' ' :: comment c) :: below))) =
          found (some {}) (above.map bare) ++
            (((visit s (trim (bare l))).column?.map (·.behind w)).toList ++
              found ((visit s (trim (bare l))).moved (balance c)).goesOn (below.map bare))) := by
  have ha := noBreak_map_bare habove
  have hb := noBreak_map_bare hbelow
  have hl' : NoBreak (bare l) := hl.filter _
  have hc' : NoBreak (bare c) := hc.filter _
  -- the four texts without their quotes
  have h1 : unquoted (written (above ++ below)) = joined (above.map bare ++ below.map bare) := by
    rw [unquoted_written, List.map_append]
  have h2 := unquoted_lines above below (comment c)
  have h3 := unquoted_lines above below l
  have h4 := unquoted_lines above below (l ++ ' ' :: comment c)
  rw [bare_comment] at h2
  rw [bare_append_comment] at h4
  have hinsert : List.Forall₂ (Behind []) (columnLines (unquoted (written (above ++ below))))
      (columnLines (unquoted (written (above ++ comment c :: below)))) := by
    rw [h1, h2]
    exact forall₂_behind_of_eq (columnLines_insert ha hb hc')
  refine ⟨inert_iff hinsert, fun hs hq => ?_, fun hd => ?_, fun s hs hi => ?_⟩
  · rw [unquoted_written] at hs
    obtain ⟨hname, hkey⟩ := name_key_insert (below.map bare) hs hq
    refine inert_of_silent (Remark.of_blanks (List.forall_mem_nil _)) (by decide) hinsert ?_ ?_
    · rw [h1, h2, hname]
    · rw [h1, h2, hkey]
  · -- the column lines are the same, but for a remark that is silent if the comment is
    rw [← balance_bare] at hd
    obtain ⟨w, hw, hws, hlines⟩ := columnLines_behind ha hb hl' hc' hd
    rw [← h3, ← h4] at hlines
    refine ⟨inert_iff hlines, fun hs hq => ?_⟩
    rw [unquoted_written, List.map_append, List.map_singleton] at hs
    obtain ⟨hname, hkey⟩ := name_key_behind (below.map bare) hs hq
    refine inert_of_silent hw (hws hq) hlines ?_ ?_
    · rw [h3, h4, hname]
    · rw [h3, h4, hkey]
  · obtain ⟨w, hw, _, hplain, hcommented⟩ := columnLines_read ha hb hl' hc' hs hi
    rw [balance_bare] at hcommented
    exact ⟨w, hw, by rw [h3, hplain], by rw [h4, hcommented]⟩

end

/-! ## a key in a comment -/

def smallHead : List (List Char) := ["CREATE TABLE T (".toList]

def smallColumn : List Char := "A INT,".toList

def smallRest : List (List Char) := ["B INT,".toList, "PRIMARY KEY (A)".toList, ")".toList]

/-- a key clause that is commented out still names the key; a silent comment does nothing -/
theorem comment_inert_iff_small :
    ¬ Inert {} (smallHead ++ smallColumn :: smallRest)
      (smallHead ++ comment "PRIMARY KEY (B)".toList :: smallColumn :: smallRest) ∧
    Inert {} (smallHead ++ smallColumn :: smallRest)
      (smallHead ++ (smallColumn ++ ' ' :: comment "(code)".toList) :: smallRest) := by
  have habove : ∀ m ∈ smallHead, NoBreak m := by decide
  have hbelow : ∀ m ∈ smallRest, NoBreak m := by decide
  have hcolumn : NoBreak smallColumn := by decide
  constructor
  · have hall : ∀ m ∈ smallColumn :: smallRest, NoBreak m := by decide
    rw [(comment_inert_iff {} habove hall hcolumn
      (show NoBreak "PRIMARY KEY (B)".toList by decide)).1]
    rintro (⟨e, he⟩ | ⟨_, hkey⟩)
    · have hok :
          (Table.ofDdl {} (written (smallHead ++ smallColumn :: smallRest))).isOk = true := by
        decide +kernel
      rw [he] at hok
      cases hok
    · revert hkey
      decide +kernel
  · exact ((comment_inert_iff {} habove hbelow hcolumn
      (show NoBreak "(code)".toList by decide)).2.2.1 (Or.inl (by decide))).2
      (by decide +kernel) (by decide +kernel)

end DdlToJava.Ddl
