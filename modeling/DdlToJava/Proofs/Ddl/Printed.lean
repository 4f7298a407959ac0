import DdlToJava.Proofs.Ddl.Layout
import DdlToJava.Proofs.Ddl.Sources
import DdlToJava.Proofs.Text.Tail

/-!
# Reading what was printed

The readers of a column line against the printers of `Layout`, from the small parts up:

* `isWord_of_mem_chars`   a name is a word, with no blank, quote, parenthesis, comma or point in it;
* `natOfDigits_toDigits`  a number comes back from its digits;
* `Size.read_print`       so does a size, and what stands behind it is left;
* `ofLine?_print`         and a column, with a comma behind it or none.
-/

namespace DdlToJava.Ddl

open Text Body

/-! ## names -/

namespace Name
variable {n : Name}

theorem isWord_of_mem_chars {c : Char} (h : c ∈ n.chars) : isWord c = true := by
  have halnum : c.isAlphanum = true ∨ c = '_' := by
    rcases List.mem_cons.mp h with rfl | h
    · exact Or.inl (isAlphanum_of_isAlpha n.first_letter)
    · exact n.others_word c h
  rcases halnum with h | rfl
  · exact isWord_of_isAlphanum c h (toNat_lt_of_isAlphanum h)
  · exact isWord_underscore

/-- a character that no word holds is not in a name -/
theorem not_mem_chars {c : Char} (h : isWord c = false) : c ∉ n.chars := by
  intro hc
  rw [isWord_of_mem_chars hc] at h
  cases h

theorem chars_ne_nil : n.chars ≠ [] := List.cons_ne_nil _ _

theorem toNat_lt_of_mem_chars {c : Char} (h : c ∈ n.chars) : c.toNat < 128 := by
  rcases List.mem_cons.mp h with rfl | h
  · exact toNat_lt_of_isAlphanum (isAlphanum_of_isAlpha n.first_letter)
  · rcases n.others_word c h with h | rfl
    · exact toNat_lt_of_isAlphanum h
    · decide

/-- in a name, the letters of a keyword are its small letters -/
theorem foldLetter_of_mem_chars {c : Char} (h : c ∈ n.chars) : foldLetter c = c.toLower := by
  have hc := toNat_lt_of_mem_chars h
  have hne : ∀ d : Char, 128 ≤ d.toNat → c ≠ d := by
    rintro d hd rfl
    omega
  unfold foldLetter
  rw [if_neg (not_or.mpr ⟨hne _ (by decide), hne _ (by decide)⟩), if_neg (hne _ (by decide)),
    if_neg (hne _ (by decide))]

theorem map_foldLetter_chars (n : Name) : n.chars.map foldLetter = n.chars.map Char.toLower :=
  List.map_congr_left fun _ h => foldLetter_of_mem_chars h

theorem word?_append {z : List Char} (hz : EndsWord z) : word? (n.chars ++ z) = some (n.chars, z) :=
  run?_append isWord chars_ne_nil (fun _ h => isWord_of_mem_chars h) hz

/-- a name is read as soon as blanks are skipped -/
theorem isSpace_head (n : Name) (z : List Char) :
    ∀ c, (n.chars ++ z).head? = some c → isSpace c = false := by
  intro c hc
  cases hc
  exact isSpace_of_isWord (isWord_of_mem_chars (List.mem_cons_self ..))

theorem text_ne_empty : n.text ≠ "" := by
  intro h
  have hchars : n.text.toList = n.chars := String.toList_ofList
  rw [h] at hchars
  exact chars_ne_nil hchars.symm

end Name

/-! ## numbers -/

theorem digitValue?_of_isDigit {c : Char} (h : c.isDigit = true) :
    digitValue? c = some (c.toNat - 48) := by
  have hc : c.toNat < 128 := by
    apply toNat_lt_of_isAlphanum
    unfold Char.isAlphanum
    rw [h, Bool.or_true]
  unfold digitValue?
  rw [if_pos hc, if_pos h]

theorem isDigit_of_mem_toDigits {n : Nat} {c : Char} (h : c ∈ Nat.toDigits 10 n) :
    Text.isDigit c = true := by
  unfold Text.isDigit
  rw [digitValue?_of_isDigit (Nat.isDigit_of_mem_toDigits (by decide) (by decide) h)]
  rfl

/-- a number comes back from its digits -/
theorem natOfDigits_toDigits (n : Nat) : natOfDigits (Nat.toDigits 10 n) = n := by
  have hfold : ∀ (ds : List Char) (m : Nat), (∀ c ∈ ds, c.isDigit = true) →
      ds.foldl (fun n c => 10 * n + (digitValue? c).getD 0) m = Nat.ofDigitChars 10 ds m := by
    intro ds
    induction ds with
    | nil => intro m _; rfl
    | cons c ds ih =>
      intro m h
      rw [List.foldl_cons, Nat.ofDigitChars_cons,
        digitValue?_of_isDigit (h c (List.mem_cons_self ..))]
      exact ih _ fun d hd => h d (List.mem_cons_of_mem c hd)
  show (Nat.toDigits 10 n).foldl _ 0 = n
  rw [hfold _ _ fun c h => Nat.isDigit_of_mem_toDigits (by decide) (by decide) h]
  exact Nat.ofDigitChars_ten_toDigits

theorem readSize_toDigits (n : SizeNumber) : readSize (Nat.toDigits 10 n) = .ok (n.val : Int) := by
  have hlen : (Nat.toDigits 10 n.val).length ≤ 19 := by
    rw [Nat.length_toDigits_le_iff (by decide) (by decide)]
    have hlimit : JavaType.lengthLimit ≤ 10 ^ 19 := by decide
    exact Nat.lt_of_lt_of_le n.isLt hlimit
  have hlimit : digitLimit = 4300 := rfl
  unfold readSize
  rw [if_neg (by omega), natOfDigits_toDigits]

/-! ## sizes -/

theorem head_toDigits {n : Nat} {z : List Char} {c : Char}
    (h : (Nat.toDigits 10 n ++ z).head? = some c) : c ∈ Nat.toDigits 10 n := by
  obtain ⟨d, ds, hd⟩ := List.exists_cons_of_ne_nil (Nat.toDigits_ne_nil (n := n) (b := 10))
  rw [hd] at h ⊢
  cases h
  exact List.mem_cons_self ..

theorem run?_toDigits (n : Nat) {z : List Char}
    (hz : ∀ c, z.head? = some c → Text.isDigit c = false) :
    run? Text.isDigit (trimStart (Nat.toDigits 10 n ++ z)) = some (Nat.toDigits 10 n, z) := by
  have htrim : trimStart (Nat.toDigits 10 n ++ z) = Nat.toDigits 10 n ++ z :=
    trimStart_of_head fun c hc => isSpace_of_isDigit (isDigit_of_mem_toDigits (head_toDigits hc))
  rw [htrim]
  exact run?_append _ Nat.toDigits_ne_nil (fun _ h => isDigit_of_mem_toDigits h) hz

/-- a precision that is read, and what may stand behind it -/
theorem SizeText.read?_toDigits (p : Nat) {z : List Char}
    (hz : ∀ c, z.head? = some c → Text.isDigit c = false) :
    read? ('(' :: Nat.toDigits 10 p ++ z) =
      match scale? (trimStart z) with
      | some (scale, cs) =>
        (symbol? ')' (skipUnit cs)).map fun r => (⟨Nat.toDigits 10 p, scale⟩, r)
      | none => (symbol? ')' (skipUnit z)).map fun r => (⟨Nat.toDigits 10 p, []⟩, r) := by
  show (run? Text.isDigit (trimStart (Nat.toDigits 10 p ++ z))).bind _ = _
  rw [run?_toDigits p hz]
  show (match scale? (trimStart z) with
    | some (scale, cs) => (symbol? ')' (skipUnit cs)).bind _
    | none => (symbol? ')' (skipUnit z)).bind _) = _
  cases scale? (trimStart z) with
  | none => cases symbol? ')' (skipUnit z) <;> rfl
  | some x =>
    show (symbol? ')' (skipUnit x.2)).bind _ = (symbol? ')' (skipUnit x.2)).map _
    cases symbol? ')' (skipUnit x.2) <;> rfl

namespace Size

/-- the size as it is read -/
def text : Size → SizeText
  | none => {}
  | plain p | bytes p | chars p => ⟨Nat.toDigits 10 p, []⟩
  | scaled p s => ⟨Nat.toDigits 10 p, Nat.toDigits 10 s⟩

/-- a size is read back, and no size is read where there is none -/
theorem read_print (z : Size) {r : List Char} (hr : (trimStart r).head? ≠ some '(') :
    SizeText.read? (z.print ++ r) = some (z.text, r) ∨
      (SizeText.read? (z.print ++ r) = Option.none ∧ z.text = {} ∧ z.print ++ r = r) := by
  have hclose : ∀ c, (')' :: r).head? = some c → Text.isDigit c = false := by
    intro c hc
    cases hc
    rfl
  cases z with
  | none =>
    refine Or.inr ⟨?_, rfl, rfl⟩
    show (symbol? '(' (trimStart r)).bind _ = Option.none
    cases h : trimStart r with
    | nil => rfl
    | cons c cs =>
      rw [h] at hr
      rw [symbol?_cons, if_neg fun hc => hr (by rw [hc]; rfl)]
      rfl
  | plain p =>
    refine Or.inl ?_
    show SizeText.read? ('(' :: (Nat.toDigits 10 p ++ [')']) ++ r) = _
    rw [List.cons_append, List.append_assoc]
    exact SizeText.read?_toDigits p hclose
  | scaled p s =>
    refine Or.inl ?_
    have hcat : Size.print (.scaled p s) ++ r =
        '(' :: Nat.toDigits 10 p ++ (',' :: (Nat.toDigits 10 s ++ ')' :: r)) := by
      show ('(' :: Nat.toDigits 10 p ++ ',' :: Nat.toDigits 10 s ++ [')']) ++ r = _
      rw [List.append_assoc, List.append_assoc]
      rfl
    have hscale : SizeText.scale? (trimStart (',' :: (Nat.toDigits 10 s ++ ')' :: r))) =
        some (Nat.toDigits 10 s, ')' :: r) := by
      show (run? Text.isDigit (trimStart (Nat.toDigits 10 s ++ ')' :: r))).bind _ = _
      rw [run?_toDigits s hclose]
      rfl
    rw [hcat, SizeText.read?_toDigits p (by intro c hc; cases hc; rfl), hscale]
    rfl
  | bytes p =>
    refine Or.inl ?_
    show SizeText.read? ('(' :: (Nat.toDigits 10 p ++ " BYTE)".toList) ++ r) = _
    rw [List.cons_append, List.append_assoc]
    exact SizeText.read?_toDigits p (by intro c hc; cases hc; rfl)
  | chars p =>
    refine Or.inl ?_
    show SizeText.read? ('(' :: (Nat.toDigits 10 p ++ " CHAR)".toList) ++ r) = _
    rw [List.cons_append, List.append_assoc]
    exact SizeText.read?_toDigits p (by intro c hc; cases hc; rfl)

theorem readSize_text (z : Size) :
    readSize z.text.precision = .ok (z.precision : Int) ∧
      readSize z.text.scale = .ok (z.scale : Int) := by
  cases z with
  | none => exact ⟨rfl, rfl⟩
  | plain p => exact ⟨readSize_toDigits p, rfl⟩
  | scaled p s => exact ⟨readSize_toDigits p, readSize_toDigits s⟩
  | bytes p => exact ⟨readSize_toDigits p, rfl⟩
  | chars p => exact ⟨readSize_toDigits p, rfl⟩

end Size

/-! ## columns -/

/-- no comma, or one -/
def IsComma (z : List Char) : Prop := z = [] ∨ z = [',']

theorem IsComma.endsWord {z : List Char} (hz : IsComma z) : EndsWord z := by
  rcases hz with rfl | rfl
  · exact EndsWord.nil
  · exact EndsWord.cons (by decide) []

theorem Mark.endsWord (m : Mark) {z : List Char} (hz : EndsWord z) : EndsWord (m.print ++ z) := by
  cases m with
  | none => exact hz
  | notNull => exact EndsWord.cons (by decide) _
  | primaryKey => exact EndsWord.cons (by decide) _

theorem Size.endsWord (s : Size) {z : List Char} (hz : EndsWord z) : EndsWord (s.print ++ z) := by
  cases s with
  | none => exact hz
  | plain p => exact EndsWord.cons (by decide) _
  | scaled p s => exact EndsWord.cons (by decide) _
  | bytes p => exact EndsWord.cons (by decide) _
  | chars p => exact EndsWord.cons (by decide) _

theorem Mark.head_trimStart (m : Mark) {z : List Char} (hz : IsComma z) :
    (trimStart (m.print ++ z)).head? ≠ some '(' := by
  cases m with
  | none => rcases hz with rfl | rfl <;> decide
  | notNull => rcases hz with rfl | rfl <;> decide
  | primaryKey => rcases hz with rfl | rfl <;> decide

/-- the mark of a key is the only one -/
theorem Mark.hasKeyMark_print (m : Mark) {z : List Char} (hz : IsComma z) :
    hasKeyMark false (m.print ++ z) = decide (m = .primaryKey) := by
  cases m with
  | none => rcases hz with rfl | rfl <;> decide +kernel
  | notNull => rcases hz with rfl | rfl <;> decide +kernel
  | primaryKey => rcases hz with rfl | rfl <;> decide +kernel

theorem Name.within_nil (n : Name) : n.within [] = n.chars := List.append_nil _

namespace ColumnDecl

/-- the column as it is read -/
def line (c : ColumnDecl) (z : List Char) : ColumnLine :=
  ⟨c.name.text, c.typeName.text, c.size.text, c.mark.print ++ z⟩

theorem print_append (c : ColumnDecl) (z : List Char) : c.print [] ++ z =
    c.name.chars ++ ' ' :: (c.typeName.chars ++ (c.size.print ++ (c.mark.print ++ z))) := by
  unfold ColumnDecl.print
  rw [Name.within_nil, List.append_assoc, List.append_assoc, List.append_assoc]
  rfl

theorem read?_print (c : ColumnDecl) {z : List Char} (hz : IsComma z) :
    ColumnLine.read? (c.print [] ++ z) = some (c.line z) := by
  have hblank : blanks? (' ' :: (c.typeName.chars ++ (c.size.print ++ (c.mark.print ++ z)))) =
      some (c.typeName.chars ++ (c.size.print ++ (c.mark.print ++ z))) := by
    refine blanks?_eq_some.mpr ⟨⟨' ', _, rfl, rfl⟩, ?_⟩
    exact (trimStart_of_head (c.typeName.isSpace_head _)).symm
  rw [print_append]
  refine Option.bind_eq_some_iff.mpr
    ⟨_, Name.word?_append (EndsWord.cons (by decide) _), Option.bind_eq_some_iff.mpr
    ⟨_, hblank, Option.bind_eq_some_iff.mpr
    ⟨_, Name.word?_append (c.size.endsWord (c.mark.endsWord hz.endsWord)), ?_⟩⟩⟩
  dsimp only
  rcases c.size.read_print (c.mark.head_trimStart hz) with h | ⟨h, htext, hprint⟩
  · rw [h]
    rfl
  · rw [h, hprint]
    unfold line
    rw [htext]
    rfl

theorem ofLine?_print (c : ColumnDecl) {z : List Char} (hz : IsComma z) :
    ColumnLine.ofLine? (c.print [] ++ z) = some (c.line z) := by
  have hforeign : ColumnLine.isForeign (c.print [] ++ z) = false := by
    have hfirst : ('-' == c.name.first) = false := by
      rw [beq_eq_false_iff_ne]
      intro h
      have hword := Name.isWord_of_mem_chars (n := c.name) (List.mem_cons_self ..)
      rw [← h] at hword
      cases hword
    have htake := (run?_eq_some isWord (Name.word?_append (n := c.name)
      (EndsWord.cons (c := ' ') (by decide)
        (c.typeName.chars ++ (c.size.print ++ (c.mark.print ++ z)))))).1
    unfold ColumnLine.isForeign
    rw [print_append, ← htake, c.name_free]
    show (false || (('-' == c.name.first) && _) || false) = false
    rw [hfirst]
    rfl
  unfold ColumnLine.ofLine?
  rw [hforeign]
  exact c.read?_print hz

end ColumnDecl

end DdlToJava.Ddl
