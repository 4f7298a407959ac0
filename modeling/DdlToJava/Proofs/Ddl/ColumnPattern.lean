import DdlToJava.Ddl.ColumnLine
import DdlToJava.Proofs.Text.Pattern
import DdlToJava.Proofs.Text.Search
import DdlToJava.Proofs.Text.Tail

/-!
# The pattern of a column line

`columnPattern` is a column line as a pattern, with its optional parts and its groups: 1 the name, 2
the type, 3 the precision and 4 the scale.

* `first?_sizePattern`, `first?_columnPattern`   what the groups hold, part by part;
* `ColumnLine.read?_eq_columnPattern`            the reader gives what the pattern matches first,
                                                 though it never goes back.

White space is where the pattern has a choice: behind the digits it may belong to the digits, to the
comma or to the unit.  `closing`, `unitEnd` and `scaleEnd` are what the pattern still wants at such
a place, each with a lemma that says what is read there.
-/

namespace DdlToJava.Ddl

open Text Pattern

/-! ## the pattern -/

/-- the unit of a length behind white space -/
def unitPattern : Pattern :=
  chain [run isSpace, either (word "byte".toList) (word "char".toList), many isSpace]

/-- a comma and the scale -/
def scalePattern : Pattern :=
  chain [symbol ',', many isSpace, group 4 (run isDigit), many isSpace]

/-- a size in parentheses -/
def sizePattern : Pattern :=
  chain [many isSpace, symbol '(', many isSpace, group 3 (run isDigit), many isSpace,
    maybe scalePattern, maybe unitPattern, symbol ')']

def columnPattern : Pattern :=
  chain [group 1 (run isWord), run isSpace, group 2 (run isWord), maybe sizePattern]

/-- the group of a scale, if there is one -/
def scaleGroup (scale : List Char) : Groups := if scale = [] then [] else [(4, scale)]

/-- the groups of a size -/
def SizeText.groups (z : SizeText) : Groups :=
  (3, z.precision) :: scaleGroup z.scale

/-- the column that the groups of a match give; a group that has matched nothing counts as empty -/
def ColumnLine.ofMatch (m : Groups × List Char) : ColumnLine where
  name := String.ofList ((m.1.lookup 1).getD [])
  typeName := String.ofList ((m.1.lookup 2).getD [])
  size := ⟨(m.1.lookup 3).getD [], (m.1.lookup 4).getD []⟩
  rest := m.2

/-! ## the closing parenthesis -/

namespace SizeText

/-- the end of a size at the front -/
def close? (cs : List Char) : Option (Groups × List Char) := (symbol? ')' cs).map fun r => ([], r)

/-- what the pattern wants behind a unit -/
def closing : Pattern := seq (symbol ')') nothing

theorem first?_closing (cs : List Char) : closing.first? cs = close? cs := by
  rw [closing, first?_seq_nothing, first?_symbol, close?]

theorem close?_cons_of_ne {c : Char} (h : c ≠ ')') (cs : List Char) : close? (c :: cs) = none := by
  rw [close?, symbol?_cons, if_neg h]
  rfl

theorem close?_blank {c : Char} (h : isSpace c = true) (cs : List Char) :
    close? (c :: cs) = none := by
  apply close?_cons_of_ne
  rintro rfl
  cases h

/-! ## the unit -/

/-- what follows the letters of a unit -/
def unit? (cs : List Char) : Option (List Char) :=
  (keyword? "byte".toList cs).or (keyword? "char".toList cs)

theorem byte_or_char (cs : List Char) :
    keyword? "byte".toList cs = none ∨ keyword? "char".toList cs = none := by
  cases cs with
  | nil => exact .inl rfl
  | cons c cs =>
    by_cases h : foldLetter c = 'b'
    · right
      exact if_neg (by rw [h]; decide)
    · left
      exact if_neg h

/-- a unit begins with one of two letters -/
theorem unit?_cons {c : Char} {cs r : List Char} (h : unit? (c :: cs) = some r) :
    foldLetter c = 'b' ∨ foldLetter c = 'c' := by
  by_contra hc
  rw [not_or] at hc
  have hbyte : keyword? "byte".toList (c :: cs) = none := if_neg hc.1
  have hchar : keyword? "char".toList (c :: cs) = none := if_neg hc.2
  rw [unit?, hbyte, hchar] at h
  cases h

theorem isWord_of_unit? {c : Char} {cs r : List Char} (h : unit? (c :: cs) = some r) :
    isWord c = true := by
  apply isWord_of_foldLetter
  rcases unit?_cons h with h | h
  · rw [h]
    decide
  · rw [h]
    decide

theorem unit?_of_not {c : Char} (h : isWord c = false) (cs : List Char) :
    unit? (c :: cs) = none := by
  cases hu : unit? (c :: cs) with
  | none => rfl
  | some r =>
    rw [isWord_of_unit? hu] at h
    cases h

theorem trimStart_of_blanks? {cs : List Char} (h : blanks? cs = none) : trimStart cs = cs := by
  cases cs with
  | nil => rfl
  | cons c cs =>
    apply trimStart_cons_of_not
    cases hc : isSpace c with
    | false => rfl
    | true =>
      rw [blanks?, if_pos hc] at h
      cases h

theorem skipUnit_noBlank {cs : List Char} (h : blanks? cs = none) : skipUnit cs = cs := by
  rw [skipUnit, h]

theorem skipUnit_noUnit {cs r : List Char} (h : blanks? cs = some r) (hunit : unit? r = none) :
    skipUnit cs = r := by
  unfold unit? at hunit
  simp only [skipUnit, h, hunit]

theorem skipUnit_unit {cs r u : List Char} (h : blanks? cs = some r) (hunit : unit? r = some u) :
    skipUnit cs = trimStart u := by
  unfold unit? at hunit
  simp only [skipUnit, h, hunit]

/-- a unit is no end of a size -/
theorem close?_of_unit? {cs r : List Char} (h : unit? cs = some r) : close? cs = none := by
  cases cs with
  | nil => rfl
  | cons c cs =>
    apply close?_cons_of_ne
    rintro rfl
    exact absurd (isWord_of_unit? h) (by decide)

/-- the end of a size behind the letters of a unit -/
def closeUnit? (cs : List Char) : Option (Groups × List Char) :=
  (unit? cs).bind fun r => close? (trimStart r)

theorem closeUnit?_eq (cs : List Char) : closeUnit? cs =
    ((keyword? "byte".toList cs).bind fun r => close? (trimStart r)).or
      ((keyword? "char".toList cs).bind fun r => close? (trimStart r)) := by
  rw [closeUnit?, unit?]
  rcases byte_or_char cs with h | h
  · rw [h, Option.none_or, Option.bind_none, Option.none_or]
  · rw [h, Option.or_none, Option.bind_none, Option.or_none]

theorem avoids_closing {p : Char → Bool} (h : p ')' = false) : Avoids p closing :=
  (avoids_symbol h).seq nothing

theorem first?_unitPattern_closing (cs : List Char) :
    (seq unitPattern closing).first? cs = (blanks? cs).bind closeUnit? := by
  have hend (cs : List Char) : (seq (many isSpace) closing).first? cs = close? (trimStart cs) := by
    rw [first?_many_greedy (avoids_closing rfl).greedy, first?_closing]
    rfl
  have hunit (cs : List Char) : (seq (either (word "byte".toList) (word "char".toList))
      (seq (many isSpace) closing)).first? cs = closeUnit? cs := by
    rw [first?_either_seq, first?_word_seq, first?_word_seq, closeUnit?_eq, funext hend]
  have hletter : Avoids isSpace (either (word "byte".toList) (word "char".toList)) :=
    (avoids_word (k := 'b') rfl _).either (avoids_word (k := 'c') rfl _)
  rw [unitPattern, first?_chain_seq, List.foldr_cons, List.foldr_cons, List.foldr_cons,
    List.foldr_nil, first?_run_greedy (hletter.seq _).greedy, funext hunit]

/-- what the pattern wants behind the digits and their white space -/
def unitEnd : Pattern := seq (maybe unitPattern) closing

theorem avoids_unitEnd {p : Char → Bool} (hp : ∀ c, p c = true → isSpace c = false)
    (h : p ')' = false) : Avoids p unitEnd :=
  Avoids.maybe_seq (((avoids_run hp).seq _).seq _) (avoids_closing h)

theorem first?_unitEnd (cs : List Char) :
    unitEnd.first? cs = ((blanks? cs).bind closeUnit?).or (close? cs) := by
  rw [unitEnd, first?_maybe_seq, first?_unitPattern_closing, first?_closing]

theorem first?_unitEnd_blank {c : Char} (h : isSpace c = true) (cs : List Char) :
    unitEnd.first? (c :: cs) = closeUnit? (trimStart cs) := by
  rw [first?_unitEnd, blanks?, if_pos h, close?_blank h, Option.or_none, Option.bind_some]

theorem first?_unitEnd_of_not {cs : List Char} (h : blanks? cs = none) :
    unitEnd.first? cs = close? cs := by
  rw [first?_unitEnd, h, Option.bind_none, Option.none_or]

theorem blanks?_trimStart (cs : List Char) : blanks? (trimStart cs) = none := by
  cases h : trimStart cs with
  | nil => rfl
  | cons c ds =>
    have hhead : (trimStart cs).head? = some c := by rw [h]; rfl
    exact blanks?_cons_of_not (isSpace_head_trimStart hhead) ds

/-- White space behind the digits goes to the unit if there is one.  The pattern first takes all of
it for the digits and then gives it back. -/
theorem first?_many_unitEnd (cs : List Char) :
    (seq (many isSpace) unitEnd).first? cs = close? (skipUnit cs) := by
  rw [first?_many_giveBack fun c cs hc => first?_unitEnd_blank hc cs]
  cases h : blanks? cs with
  | none =>
    rw [skipUnit_noBlank h]
    exact first?_unitEnd_of_not h
  | some r =>
    show (unitEnd.first? r).or (closeUnit? r) = _
    have hr : blanks? r = none := by
      obtain ⟨-, rfl⟩ := blanks?_eq_some.mp h
      exact blanks?_trimStart cs
    rw [first?_unitEnd_of_not hr, closeUnit?]
    cases hunit : unit? r with
    | none => rw [Option.bind_none, Option.or_none, skipUnit_noUnit h hunit]
    | some u =>
      rw [close?_of_unit? hunit, Option.none_or, Option.bind_some, skipUnit_unit h hunit]

/-! ## the scale -/

theorem scale?_eq (cs : List Char) :
    scale? cs = (symbol? ',' cs).bind fun r => run? isDigit (trimStart r) := by
  show (symbol? ',' cs).bind (fun r => (run? isDigit (trimStart r)).bind some) = _
  simp only [Option.bind_fun_some]

theorem scale?_eq_some {cs : List Char} {u : List Char × List Char} :
    scale? cs = some u ↔ ∃ r, cs = ',' :: r ∧ run? isDigit (trimStart r) = some u := by
  simp only [scale?_eq, Option.bind_eq_some_iff, symbol?_eq_some]

theorem first?_scalePattern_unitEnd (cs : List Char) :
    (seq scalePattern unitEnd).first? cs =
      (scale? cs).bind fun u => (close? (skipUnit u.2)).map (behind [(4, u.1)]) := by
  have hdigits : Avoids isDigit (seq (many isSpace) unitEnd) :=
    (avoids_unitEnd (fun _ => isSpace_of_isDigit) rfl).many_seq fun _ => isSpace_of_isDigit
  have hscale (cs : List Char) :
      (seq (group 4 (run isDigit)) (seq (many isSpace) unitEnd)).first? cs =
        (run? isDigit cs).bind fun u => (close? (skipUnit u.2)).map (behind [(4, u.1)]) := by
    rw [first?_group_greedy hdigits.greedy, funext first?_many_unitEnd]
  have hblanks : Avoids isSpace (group 4 (run isDigit)) :=
    (avoids_run fun _ => isDigit_of_isSpace).group 4
  rw [scalePattern, first?_chain_seq, List.foldr_cons, List.foldr_cons, List.foldr_cons,
    List.foldr_cons, List.foldr_nil, first?_symbol_seq, scale?_eq, Option.bind_assoc]
  refine Option.bind_congr fun r _ => ?_
  rw [first?_many_greedy (hblanks.seq _).greedy, hscale]
  rfl

/-- a scale begins with its comma, which is no end of a size -/
theorem close?_of_scale? {cs : List Char} {u : List Char × List Char}
    (h : scale? (trimStart cs) = some u) : close? (skipUnit cs) = none := by
  obtain ⟨r, hr, -⟩ := scale?_eq_some.mp h
  have hclose : close? (trimStart cs) = none := by
    rw [hr]
    exact close?_cons_of_ne (by decide) r
  cases hcs : blanks? cs with
  | none =>
    rw [skipUnit_noBlank hcs, ← trimStart_of_blanks? hcs]
    exact hclose
  | some s =>
    obtain ⟨-, rfl⟩ := blanks?_eq_some.mp hcs
    have hunit : unit? (trimStart cs) = none := by
      rw [hr]
      exact unit?_of_not (by decide) r
    rw [skipUnit_noUnit hcs hunit]
    exact hclose

/-- the scale of a size, which is empty when there is none, and what follows the size -/
def scaleAndRest? (cs : List Char) : Option (List Char × List Char) :=
  match scale? (trimStart cs) with
  | some u => (symbol? ')' (skipUnit u.2)).map fun r => (u.1, r)
  | none => (symbol? ')' (skipUnit cs)).map fun r => ([], r)

/-- what the pattern wants behind the precision and its white space -/
def scaleEnd : Pattern := seq (maybe scalePattern) unitEnd

theorem first?_many_scaleEnd (cs : List Char) :
    (seq (many isSpace) scaleEnd).first? cs =
      (scaleAndRest? cs).map fun v => (scaleGroup v.1, v.2) := by
  have hcomma : Avoids isSpace scalePattern := (avoids_symbol rfl).seq _
  rw [scaleEnd, first?_many_maybe (hcomma.seq _), first?_scalePattern_unitEnd, first?_many_unitEnd,
    scaleAndRest?]
  show ((scale? (trimStart cs)).bind _).or _ = _
  cases h : scale? (trimStart cs) with
  | none =>
    rw [Option.bind_none, Option.none_or, close?, Option.map_map]
    rfl
  | some u =>
    obtain ⟨r, -, hr⟩ := scale?_eq_some.mp h
    have hne : u.1 ≠ [] := (run?_eq_some isDigit hr).2.2
    rw [Option.bind_some, close?_of_scale? h, Option.or_none, close?, Option.map_map,
      Option.map_map]
    refine congrArg (fun f => Option.map f (symbol? ')' (skipUnit u.2))) (funext fun r => ?_)
    simp [behind, scaleGroup, hne]

/-! ## the size -/

theorem read?_eq (cs : List Char) : read? cs =
    (symbol? '(' (trimStart cs)).bind fun r => (run? isDigit (trimStart r)).bind fun u =>
      (scaleAndRest? u.2).map fun v => (⟨u.1, v.1⟩, v.2) := by
  show (symbol? '(' (trimStart cs)).bind _ = _
  refine Option.bind_congr fun r _ => ?_
  show (run? isDigit (trimStart r)).bind _ = _
  refine Option.bind_congr fun ⟨precision, cs⟩ _ => ?_
  dsimp only [scaleAndRest?]
  cases scale? (trimStart cs) with
  | none =>
    cases symbol? ')' (skipUnit cs) with
    | none => rfl
    | some r => rfl
  | some v =>
    obtain ⟨scale, rest⟩ := v
    dsimp only
    cases symbol? ')' (skipUnit rest) with
    | none => rfl
    | some r => rfl

theorem first?_sizePattern (cs : List Char) :
    sizePattern.first? cs = (read? cs).map fun u => (u.1.groups, u.2) := by
  have hcomma : Avoids isDigit scalePattern := (avoids_symbol rfl).seq _
  have hdigits : Avoids isDigit (seq (many isSpace) scaleEnd) :=
    ((hcomma.seq _).maybe_seq (avoids_unitEnd (fun _ => isSpace_of_isDigit) rfl)).many_seq
      fun _ => isSpace_of_isDigit
  have hprecision (cs : List Char) :
      (seq (group 3 (run isDigit)) (seq (many isSpace) scaleEnd)).first? cs =
        (run? isDigit cs).bind fun u =>
          (scaleAndRest? u.2).map fun v => ((3, u.1) :: scaleGroup v.1, v.2) := by
    rw [first?_group_greedy hdigits.greedy, funext first?_many_scaleEnd]
    refine Option.bind_congr fun u _ => ?_
    rw [Option.map_map]
    rfl
  have hinner : Avoids isSpace (group 3 (run isDigit)) :=
    (avoids_run fun _ => isDigit_of_isSpace).group 3
  have houter : Avoids isSpace (symbol '(') := avoids_symbol rfl
  show (seq (many isSpace) (seq (symbol '(') (seq (many isSpace)
      (seq (group 3 (run isDigit)) (seq (many isSpace) scaleEnd))))).first? cs = _
  rw [first?_many_greedy (houter.seq _).greedy, first?_symbol_seq, read?_eq, Option.map_bind]
  refine Option.bind_congr fun r _ => ?_
  rw [first?_many_greedy (hinner.seq _).greedy, hprecision, Function.comp_apply, Option.map_bind]
  refine Option.bind_congr fun u _ => ?_
  rw [Function.comp_apply, Option.map_map]
  rfl

end SizeText

/-! ## the column -/

/-- the size behind a type, and what follows the column -/
def sizeMatch (cs : List Char) : Groups × List Char :=
  (sizePattern.first? cs).getD ([], cs)

theorem first?_maybe_sizePattern (cs : List Char) :
    (seq (maybe sizePattern) nothing).first? cs = some (sizeMatch cs) := by
  rw [first?_maybe_seq, first?_seq_nothing, first?_nothing, sizeMatch]
  cases sizePattern.first? cs with
  | none => rfl
  | some m => rfl

theorem first?_columnPattern (cs : List Char) :
    columnPattern.first? cs = (word? cs).bind fun n => (blanks? n.2).bind fun r =>
      (word? r).map fun t => behind [(1, n.1), (2, t.1)] (sizeMatch t.2) := by
  have htype : Greedy isWord (seq (maybe sizePattern) nothing) := by
    apply Greedy.of_isSome
    intro cs
    rw [first?_maybe_sizePattern]
    rfl
  have hgap : Avoids isSpace (group 2 (run isWord)) :=
    (avoids_run fun _ => isWord_of_isSpace).group 2
  have hname : Avoids isWord (run isSpace) := avoids_run fun _ => isSpace_of_isWord
  show (seq (group 1 (run isWord)) (seq (run isSpace) (seq (group 2 (run isWord))
      (seq (maybe sizePattern) nothing)))).first? cs = _
  rw [first?_group_greedy (hname.seq _).greedy]
  refine Option.bind_congr fun n _ => ?_
  rw [first?_run_greedy (hgap.seq _).greedy, Option.map_bind]
  refine Option.bind_congr fun r _ => ?_
  rw [Function.comp_apply, first?_group_greedy htype, Option.map_bind, Option.map_eq_bind]
  refine Option.bind_congr fun t _ => ?_
  rw [Function.comp_apply, first?_maybe_sizePattern]
  rfl

theorem sizeMatch_of_some {cs rest : List Char} {z : SizeText}
    (h : SizeText.read? cs = some (z, rest)) : sizeMatch cs = (z.groups, rest) := by
  rw [sizeMatch, SizeText.first?_sizePattern, h]
  rfl

theorem sizeMatch_of_none {cs : List Char} (h : SizeText.read? cs = none) :
    sizeMatch cs = ([], cs) := by
  rw [sizeMatch, SizeText.first?_sizePattern, h]
  rfl

theorem ColumnLine.ofMatch_sized (name typeName : List Char) (z : SizeText) (rest : List Char) :
    ofMatch (behind [(1, name), (2, typeName)] (z.groups, rest)) =
      ⟨String.ofList name, String.ofList typeName, z, rest⟩ := by
  obtain ⟨precision, scale⟩ := z
  cases scale with
  | nil => rfl
  | cons c cs => rfl

/-- the reader gives the columns that the pattern matches -/
theorem ColumnLine.read?_eq_columnPattern (cs : List Char) :
    read? cs = (columnPattern.first? cs).map ofMatch := by
  rw [first?_columnPattern, Option.map_bind]
  show (word? cs).bind _ = _
  refine Option.bind_congr fun n _ => ?_
  rw [Function.comp_apply, Option.map_bind]
  show (blanks? n.2).bind _ = _
  refine Option.bind_congr fun r _ => ?_
  rw [Function.comp_apply, Option.map_map, Option.map_eq_bind]
  show (word? r).bind _ = _
  refine Option.bind_congr fun t _ => ?_
  rw [Function.comp_apply, Function.comp_apply]
  cases h : SizeText.read? t.2 with
  | none =>
    rw [sizeMatch_of_none h]
    simp only [h]
    rfl
  | some u =>
    rw [sizeMatch_of_some h, ofMatch_sized]
    simp only [h]

end DdlToJava.Ddl
