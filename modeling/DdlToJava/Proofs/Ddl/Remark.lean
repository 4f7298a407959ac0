import DdlToJava.Proofs.Ddl.Sources
import DdlToJava.Proofs.Text.Tail

/-!
# A line with a remark behind it

A remark behind a line (`Text.Remark`: blanks, and a dash if anything) leaves the readers of the
line what they read without it.  From the small readers up to the scan:

* `SizeText.read?_remark`, `ColumnLine.read?_remark`   a size and a column;
* `hasKeyMark_remark`       the key marks are those of the line and those of the remark;
* `peel_remark`             the parentheses at the front;
* `visit_remark`            the visit of the line: the same column with the remark behind it, at the
                            same depth, and the depth after it moved by the balance of the remark.
-/

namespace DdlToJava.Ddl

open Text

variable {w : List Char}

/-! ## sizes -/

namespace SizeText

theorem scale?_remark (hw : Remark w) (cs : List Char) :
    scale? (trimStart (cs ++ w)) = (scale? (trimStart cs)).map fun x => (x.1, x.2 ++ w) := by
  unfold scale?
  rw [symbol?_remark (by decide) (by decide) hw]
  cases symbol? ',' (trimStart cs) with
  | none => rfl
  | some r =>
    show (run? isDigit (trimStart (r ++ w))).bind _ =
      Option.map _ ((run? isDigit (trimStart r)).bind _)
    rw [run?_remark (fun _ hc => isDigit_of_isSpace hc) (by decide) hw]
    cases run? isDigit (trimStart r) with
    | none => rfl
    | some x => rfl

/-- nothing blank closes a size -/
theorem symbol?_skipUnit_of_blank {cs : List Char} (h : trimStart cs = []) :
    symbol? ')' (skipUnit cs) = none := by
  cases hb : blanks? cs with
  | none =>
    cases cs with
    | nil => rfl
    | cons c cs =>
      rw [trimStart_cons] at h
      split at h
      · next hc =>
        rw [blanks?_eq_some.mpr ⟨⟨c, cs, rfl, hc⟩, rfl⟩] at hb
        cases hb
      · cases h
  | some r =>
    obtain ⟨_, rfl⟩ := blanks?_eq_some.mp hb
    unfold skipUnit
    rw [hb, h]
    rfl

theorem symbol?_skipUnit_remark (hw : Remark w) (cs : List Char) :
    symbol? ')' (skipUnit (cs ++ w)) = (symbol? ')' (skipUnit cs)).map (· ++ w) := by
  by_cases h : trimStart cs = []
  · rw [symbol?_skipUnit_of_blank h]
    cases hb : blanks? (cs ++ w) with
    | none =>
      unfold skipUnit
      rw [hb]
      show symbol? ')' (cs ++ w) = none
      cases hcw : cs ++ w with
      | nil => rfl
      | cons c ds =>
        have hne : c ≠ ')' := by
          rintro rfl
          have ht : trimStart (cs ++ w) = trimStart w := trimStart_append_of_nil h w
          rw [hcw, trimStart_cons_of_not (by decide)] at ht
          have := hw.dash ')' (by rw [← ht]; rfl)
          cases this
        rw [symbol?_cons, if_neg hne]
    | some r =>
      obtain ⟨_, hr⟩ := blanks?_eq_some.mp hb
      rw [trimStart_append_of_nil h] at hr
      unfold skipUnit
      rw [hb, hr]
      dsimp only
      have hk : (keyword? "byte".toList (trimStart w)).or (keyword? "char".toList (trimStart w)) =
          none := by
        rw [show "byte".toList = ['b', 'y', 't', 'e'] from rfl,
          show "char".toList = ['c', 'h', 'a', 'r'] from rfl,
          keyword?_dash (by decide) _ hw, keyword?_dash (by decide) _ hw]
        rfl
      rw [hk]
      exact symbol?_dash (by decide) hw
  · have hb := blanks?_apart (w := w) h
    unfold skipUnit
    rw [hb]
    cases blanks? cs with
    | none => exact symbol?_apart (by decide) hw.apart cs
    | some r =>
      dsimp only [Option.map_some]
      rw [keyword?_apart (by decide) hw.apart, keyword?_apart (by decide) hw.apart, ← Option.map_or]
      cases (keyword? "byte".toList r).or (keyword? "char".toList r) with
      | none => exact symbol?_apart (by decide) hw.apart r
      | some r' => exact symbol?_remark (by decide) (by decide) hw r'

theorem read?_remark (hw : Remark w) (cs : List Char) :
    read? (cs ++ w) = (read? cs).map fun x => (x.1, x.2 ++ w) := by
  unfold read?
  rw [symbol?_remark (by decide) (by decide) hw]
  cases symbol? '(' (trimStart cs) with
  | none => rfl
  | some r =>
    show (run? isDigit (trimStart (r ++ w))).bind _ =
      Option.map _ ((run? isDigit (trimStart r)).bind _)
    rw [run?_remark (fun _ hc => isDigit_of_isSpace hc) (by decide) hw]
    cases run? isDigit (trimStart r) with
    | none => rfl
    | some x =>
      dsimp only [Option.map_some, Option.bind_some]
      rw [scale?_remark hw]
      cases scale? (trimStart x.2) with
      | none =>
        show (symbol? ')' (skipUnit (x.2 ++ w))).bind _ =
          Option.map _ ((symbol? ')' (skipUnit x.2)).bind _)
        rw [symbol?_skipUnit_remark hw]
        cases symbol? ')' (skipUnit x.2) with
        | none => rfl
        | some r' => rfl
      | some y =>
        show (symbol? ')' (skipUnit (y.2 ++ w))).bind _ =
          Option.map _ ((symbol? ')' (skipUnit y.2)).bind _)
        rw [symbol?_skipUnit_remark hw]
        cases symbol? ')' (skipUnit y.2) with
        | none => rfl
        | some r' => rfl

end SizeText

/-! ## columns -/

/-- two dashes do not begin in front of a blank -/
theorem Body.isIdle_apart (hw : Apart w) {cs : List Char} (hcs : cs ≠ []) :
    isIdle (cs ++ w) = isIdle cs := by
  obtain ⟨c, ds, rfl⟩ := List.exists_cons_of_ne_nil hcs
  cases ds with
  | cons d ds => rfl
  | nil =>
    cases w with
    | nil => rfl
    | cons d w =>
      have hd : ('-' == d) = false := by
        rw [beq_eq_false_iff_ne]
        rintro rfl
        cases hw '-' rfl
      show (false || (('-' == c) && (('-' == d) && _))) = (false || (('-' == c) && _))
      rw [hd]
      rfl

namespace ColumnLine

/-- the column with a remark behind it -/
def behind (l : ColumnLine) (w : List Char) : ColumnLine := { l with rest := l.rest ++ w }

/-- the column with a name, read behind the name and the blanks -/
def named? (name cs : List Char) : Option ColumnLine := do
  let (typeName, cs) ← word? cs
  match SizeText.read? cs with
  | some (size, rest) => some ⟨String.ofList name, String.ofList typeName, size, rest⟩
  | none => some ⟨String.ofList name, String.ofList typeName, {}, cs⟩

theorem read?_eq (cs : List Char) :
    read? cs = (word? cs).bind fun x => (blanks? x.2).bind (named? x.1) := rfl

theorem named?_remark (hw : Remark w) (name cs : List Char) :
    named? name (cs ++ w) = (named? name cs).map (·.behind w) := by
  unfold named?
  rw [word?_apart hw.apart]
  cases word? cs with
  | none => rfl
  | some x =>
    dsimp only [Option.map_some, Option.bind_eq_bind, Option.bind_some]
    rw [SizeText.read?_remark hw]
    cases SizeText.read? x.2 with
    | none => rfl
    | some y => rfl

theorem read?_remark (hw : Remark w) (cs : List Char) :
    read? (cs ++ w) = (read? cs).map (·.behind w) := by
  rw [read?_eq, read?_eq, word?_apart hw.apart]
  cases word? cs with
  | none => rfl
  | some x =>
    refine blanks?_bind_remark rfl ?_ (named?_remark hw x.1) x.2
    unfold named?
    rw [show word? (trimStart w) = none from run?_dash (by decide) hw]
    rfl

theorem takeWhile_isWord_apart (hw : Apart w) (cs : List Char) :
    (cs ++ w).takeWhile isWord = cs.takeWhile isWord := by
  rw [List.takeWhile_append]
  split
  · next h =>
    have hcs : cs.takeWhile isWord = cs := (List.takeWhile_prefix isWord).eq_of_length h
    have hw0 : w.takeWhile isWord = [] := by
      cases w with
      | nil => rfl
      | cons c w =>
        rw [List.takeWhile_cons_of_neg]
        rw [hw.endsWord c rfl]
        exact Bool.false_ne_true
    rw [hw0, List.append_nil, hcs]
  · rfl

theorem isForeign_remark (hw : Apart w) {cs : List Char} (hcs : cs ≠ []) :
    isForeign (cs ++ w) = isForeign cs := by
  unfold isForeign
  rw [takeWhile_isWord_apart hw]
  show (Body.isIdle (cs ++ w) || _) = (Body.isIdle cs || _)
  rw [Body.isIdle_apart hw hcs]

/-- a remark alone declares nothing -/
theorem ofLine?_trimStart_remark (hw : Remark w) : ofLine? (trimStart w) = none := by
  unfold ofLine?
  split
  · rfl
  · show (word? (trimStart w)).bind _ = none
    rw [show word? (trimStart w) = none from run?_dash (by decide) hw]
    rfl

theorem ofLine?_remark (hw : Remark w) {cs : List Char} (hcs : cs ≠ []) :
    ofLine? (cs ++ w) = (ofLine? cs).map (·.behind w) := by
  unfold ofLine?
  rw [isForeign_remark hw.apart hcs, read?_remark hw]
  split
  · rfl
  · rfl

end ColumnLine

/-- commas and blanks in front of a declaration, with a remark behind it -/
theorem Body.declaration_remark (hw : Remark w) (cs : List Char) :
    ColumnLine.ofLine? (Body.declaration (cs ++ w)) =
      (ColumnLine.ofLine? (Body.declaration cs)).map (·.behind w) := by
  have hdrop : (cs ++ w).dropWhile (· = ',') = cs.dropWhile (· = ',') ++ w := by
    rw [List.dropWhile_append]
    split
    · next h =>
      rw [List.isEmpty_iff.mp h]
      cases w with
      | nil => rfl
      | cons c w =>
        apply List.dropWhile_cons_of_neg
        intro hc
        have hb := hw.apart c rfl
        rw [of_decide_eq_true hc] at hb
        cases hb
    · rfl
  unfold Body.declaration
  rw [hdrop]
  rcases trimStart_remark w (cs.dropWhile (· = ',')) with ⟨h, h'⟩ | ⟨h, h'⟩
  · rw [h', h]
    exact ColumnLine.ofLine?_trimStart_remark hw
  · rw [h']
    exact ColumnLine.ofLine?_remark hw h

/-! ## key marks -/

theorem primaryKey?_remark (hw : Remark w) (cs : List Char) :
    primaryKey? (cs ++ w) = (primaryKey? cs).map (· ++ w) := by
  unfold primaryKey?
  rw [keyword?_apart (by decide) hw.apart]
  cases keyword? "primary".toList cs with
  | none => rfl
  | some r =>
    exact blanks?_bind_remark rfl (keyword?_dash (by decide) _ hw)
      (keyword?_apart (by decide) hw.apart) r

theorem keyMarkAt_remark (hw : Remark w) (cs : List Char) :
    keyMarkAt (cs ++ w) = keyMarkAt cs := by
  unfold keyMarkAt
  rw [primaryKey?_remark hw]
  cases primaryKey? cs with
  | none => rfl
  | some r =>
    show (!((r ++ w).head?.any isWord) && (trimStart (r ++ w)).head? != some '(') =
      (!(r.head?.any isWord) && (trimStart r).head? != some '(')
    have hword : (r ++ w).head?.any isWord = r.head?.any isWord := by
      cases r with
      | cons c r => rfl
      | nil =>
        cases w with
        | nil => rfl
        | cons c w => exact hw.apart.endsWord c rfl
    have hopen : ((trimStart (r ++ w)).head? != some '(') = ((trimStart r).head? != some '(') := by
      rcases trimStart_remark w r with ⟨h, h'⟩ | ⟨h, h'⟩
      · rw [h', h]
        cases hd : (trimStart w).head? with
        | none => rfl
        | some c =>
          rw [hw.dash c hd]
          rfl
      · rw [h']
        obtain ⟨c, ds, hc⟩ := List.exists_cons_of_ne_nil h
        rw [hc]
        rfl
    rw [hword, hopen]

/-- a text that begins with a blank has the same key marks behind a word as elsewhere -/
theorem hasKeyMark_apart (hw : Apart w) (inWord : Bool) :
    hasKeyMark inWord w = hasKeyMark false w := by
  cases w with
  | nil => rfl
  | cons c w =>
    have hc : keyMarkAt (c :: w) = false := by
      unfold keyMarkAt primaryKey?
      have hk : keyword? "primary".toList (c :: w) = none := by
        cases hp : keyword? "primary".toList (c :: w) with
        | none => rfl
        | some r =>
          obtain ⟨u, hu, hup⟩ := keyword?_eq_some.mp hp
          obtain ⟨d, u, rfl⟩ := List.exists_cons_of_ne_nil (l := u) (by rintro rfl; cases hup)
          obtain ⟨rfl, _⟩ := List.cons.inj hu
          have hd : foldLetter c = 'p' := (List.cons.inj hup).1
          have hword : isWord c = true := isWord_of_foldLetter (by rw [hd]; rfl)
          rw [hw.endsWord c rfl] at hword
          cases hword
      rw [hk]
      rfl
    show (!inWord && keyMarkAt (c :: w) || hasKeyMark (isWord c) w) =
      (!false && keyMarkAt (c :: w) || hasKeyMark (isWord c) w)
    rw [hc, Bool.and_false, Bool.and_false]

theorem hasKeyMark_remark (hw : Remark w) (inWord : Bool) (cs : List Char) :
    hasKeyMark inWord (cs ++ w) = (hasKeyMark inWord cs || hasKeyMark false w) := by
  induction cs generalizing inWord with
  | nil => exact hasKeyMark_apart hw.apart inWord
  | cons c cs ih =>
    show (!inWord && keyMarkAt (c :: cs ++ w) || hasKeyMark (isWord c) (cs ++ w)) =
      ((!inWord && keyMarkAt (c :: cs) || hasKeyMark (isWord c) cs) || hasKeyMark false w)
    rw [keyMarkAt_remark hw, ih, Bool.or_assoc]

theorem isKeyLine_behind (hw : Remark w) (keys : List String) (l : ColumnLine) :
    isKeyLine keys (l.behind w) = (isKeyLine keys l || hasKeyMark false w) := by
  show (keys.contains l.name || hasKeyMark false (l.rest ++ w)) = _
  rw [hasKeyMark_remark hw, ← Bool.or_assoc]
  rfl

/-! ## the scan -/

namespace Body

/-- behind a parenthesis the blanks belong to the front -/
theorem peel_true {w : List Char} (h : (trimStart w).head? ≠ some '(') :
    peel true w = (0, trimStart w) := by
  induction w with
  | nil => rfl
  | cons c w ih =>
    rw [trimStart_cons] at h ⊢
    cases hc : isSpace c with
    | true =>
      rw [if_pos hc] at h
      rw [peel_blank hc, if_pos rfl]
      exact ih h
    | false =>
      rw [hc] at h
      rw [peel_stop (fun he => h (by rw [he]; rfl)) (by rw [hc]; rfl)]
      rfl

/-- the front is the same, and the remark stays behind the rest, but for its blanks when nothing
else is left -/
theorem peel_remark (hw : Remark w) (inFront : Bool) (cs : List Char) :
    (peel inFront (cs ++ w)).1 = (peel inFront cs).1 ∧
      ((peel inFront (cs ++ w)).2 = (peel inFront cs).2 ++ w ∨
        (peel inFront cs).2 = [] ∧ (peel inFront (cs ++ w)).2 = trimStart w) := by
  induction cs generalizing inFront with
  | nil =>
    cases inFront with
    | false =>
      have hp : peel false w = (0, w) := by
        cases w with
        | nil => rfl
        | cons c w =>
          refine peel_stop ?_ rfl w
          rintro rfl
          cases hw.apart '(' rfl
      rw [List.nil_append, hp]
      exact ⟨rfl, Or.inl rfl⟩
    | true =>
      have hp : peel true w = (0, trimStart w) := by
        apply peel_true
        intro h
        cases hw.dash '(' h
      rw [List.nil_append, hp]
      exact ⟨rfl, Or.inr ⟨rfl, rfl⟩⟩
  | cons c cs ih =>
    rw [List.cons_append]
    by_cases hc : c = '('
    · rw [hc, peel_open, peel_open]
      obtain ⟨h1, h2⟩ := ih true
      exact ⟨by rw [h1], h2⟩
    · cases hf : inFront && isSpace c with
      | true =>
        obtain ⟨rfl, hs⟩ := Bool.and_eq_true_iff.mp hf
        rw [peel_blank hs, peel_blank hs]
        exact ih true
      | false =>
        rw [peel_stop hc hf, peel_stop hc hf]
        exact ⟨rfl, Or.inl rfl⟩

theorem Visit.column?_map {u v : Visit} {f : ColumnLine → ColumnLine} (hdepth : u.depth = v.depth)
    (hopened : u.opened = v.opened) (hhead : u.rest.head? = some ')' ↔ v.rest.head? = some ')')
    (hline : ColumnLine.ofLine? (declaration u.rest) =
      (ColumnLine.ofLine? (declaration v.rest)).map f) : u.column? = v.column?.map f := by
  have hfits : ((u.depth = 1 ∨ (u.depth = 0 ∧ u.opened = false)) ∧ u.rest.head? ≠ some ')') ↔
      ((v.depth = 1 ∨ (v.depth = 0 ∧ v.opened = false)) ∧ v.rest.head? ≠ some ')') := by
    rw [hdepth, hopened]
    exact and_congr_right' (not_congr hhead)
  unfold Visit.column? Visit.declaration?
  rw [if_congr hfits rfl rfl]
  split
  · exact hline
  · rfl

theorem declaration_dash (hw : Remark w) : declaration (trimStart w) = trimStart w := by
  have hdrop : (trimStart w).dropWhile (· = ',') = trimStart w := by
    cases ht : trimStart w with
    | nil => rfl
    | cons c r =>
      rw [List.dropWhile_cons_of_neg]
      rw [hw.dash c (by rw [ht]; rfl)]
      decide
  unfold declaration
  rw [hdrop, trimStart_trimStart]

/-- the front leaves no closing parenthesis more than before, and the same declaration -/
theorem peel_rest_remark (hw : Remark w) (line : List Char) :
    balance (peel false (line ++ w)).2 = balance (peel false line).2 + balance w ∧
    ((peel false (line ++ w)).2.head? = some ')' ↔ (peel false line).2.head? = some ')') ∧
    ColumnLine.ofLine? (declaration (peel false (line ++ w)).2) =
      (ColumnLine.ofLine? (declaration (peel false line).2)).map (·.behind w) := by
  have hclose : w.head? ≠ some ')' := by
    intro h
    cases hw.apart ')' h
  have hclose' : (trimStart w).head? ≠ some ')' := by
    intro h
    cases hw.dash ')' h
  rcases (peel_remark hw false line).2 with h | ⟨h0, h⟩
  · rw [h]
    refine ⟨balance_append _ _, ?_, declaration_remark hw _⟩
    cases (peel false line).2 with
    | nil => exact iff_of_false hclose (by decide)
    | cons c r => exact Iff.rfl
  · rw [h, h0]
    refine ⟨?_, iff_of_false hclose' (by decide), ?_⟩
    · rw [balance_trimStart]
      exact (Int.zero_add _).symm
    · rw [declaration_dash hw, ColumnLine.ofLine?_trimStart_remark hw]
      rfl

/-- a remark behind a line moves the depth after the line and nothing else that the scan sees -/
theorem visit_remark (hw : Remark w) (s : Depth) (line : List Char) :
    (visit s (line ++ w)).depth = (visit s line).depth ∧
    (visit s (line ++ w)).after = (visit s line).after + balance w ∧
    (visit s (line ++ w)).column? = (visit s line).column?.map (·.behind w) := by
  have hdepth : (visit s (line ++ w)).depth = (visit s line).depth := by
    show s.depth + ((peel false (line ++ w)).1 : Int) = s.depth + (peel false line).1
    rw [(peel_remark hw false line).1]
  obtain ⟨hbal, hhead, hcol⟩ := peel_rest_remark hw line
  refine ⟨hdepth, ?_, ?_⟩
  · show (visit s (line ++ w)).depth + balance (peel false (line ++ w)).2 =
      (visit s line).depth + balance (peel false line).2 + balance w
    rw [hdepth, hbal, Int.add_assoc]
  · exact Visit.column?_map hdepth rfl hhead hcol

end Body

end DdlToJava.Ddl
