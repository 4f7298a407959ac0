import DdlToJava.Console.Markup
import DdlToJava.Proofs.Text.Case
import DdlToJava.Proofs.Text.Reading

/-!
# Messages that print

A message fails to print only through its tags.  A text without opening brackets and backslashes
prints, a text in a style prints, and an escaped text prints whatever it holds.

* `nameOf_ok`       a style without round brackets has a name;
* `Prints.literal`, `Prints.styled`
                    a message may go on with a literal text or with one in a style;
* `prints_escape_append`, `prints_escape`
                    a message may go on or end with an escaped text, whatever the text holds.
-/

namespace DdlToJava.Console

open Text

/-! ## names of styles -/

namespace Colour

theorem mem_of_bracketed? {word : String} {cs inside : List Char}
    (h : bracketed? word cs = some inside) : '(' ∈ cs := by
  dsimp only [bracketed?] at h
  split at h
  · next hopening =>
    rw [Bool.and_eq_true, List.isPrefixOf_iff_prefix] at hopening
    exact hopening.1.subset (List.mem_append_right _ (List.mem_cons_self ..))
  · cases h

theorem check_ne_missingPart {cs : List Char} (h : '(' ∉ cs) :
    check cs ≠ .error .missingPart := by
  unfold check
  split
  · intro hcheck
    cases hcheck
  · split
    · next inside hinside => exact absurd (mem_of_bracketed? hinside) h
    · intro hcheck
      cases hcheck

end Colour

namespace Style

theorem colourOf_ne_missingPart {w : String} (h : '(' ∉ w.toList) :
    colourOf w ≠ .error .missingPart := by
  unfold colourOf
  split
  · intro hcolour
    cases hcolour
  · intro hcolour
    cases hcolour
  · next hcheck =>
    exact absurd hcheck (Colour.check_ne_missingPart fun hmem => h (mem_lower (by decide) hmem))

theorem bind_colourOf_ne_missingPart {w : String} (h : '(' ∉ w.toList)
    {f : String → Except Fault Style} (hf : ∀ c, f c ≠ .error .missingPart) :
    (colourOf w >>= f) ≠ .error .missingPart := by
  intro hbind
  cases hc : colourOf w with
  | error fault =>
    rw [hc] at hbind
    cases hbind
    exact colourOf_ne_missingPart h hc
  | ok c =>
    rw [hc] at hbind
    exact hf c hbind

theorem ofWords_ne_missingPart (s : Style) {ws : List String} (h : ∀ w ∈ ws, '(' ∉ w.toList) :
    ofWords s ws ≠ .error .missingPart := by
  have noStyle : (Except.error .noStyle : Except Fault Style) ≠ .error .missingPart :=
    fun heq => nomatch heq
  have behind {c d : String} {ws : List String} (h : ∀ w ∈ c :: d :: ws, '(' ∉ w.toList) :
      ∀ w ∈ ws, '(' ∉ w.toList := fun w hw =>
    h w (List.mem_cons_of_mem _ (List.mem_cons_of_mem _ hw))
  fun_induction ofWords s ws with
  | case1 s => exact fun heq => nomatch heq
  | case2 | case4 | case6 | case7 => exact noStyle
  | case3 s w hon c ws ih =>
    refine bind_colourOf_ne_missingPart (h c ?_) fun d => ih d (behind h)
    exact List.mem_cons_of_mem _ (List.mem_cons_self ..)
  | case5 s w hon hnot c ws a ha ih => exact ih (behind h)
  | case8 s w hon hnot hlink c ws ih => exact ih (behind h)
  | case9 s w ws hon hnot hlink a ha ih =>
    exact ih fun w hw => h w (List.mem_cons_of_mem _ hw)
  | case10 s w ws hon hnot hlink hnone ih =>
    refine bind_colourOf_ne_missingPart (h w (List.mem_cons_self ..)) fun d => ?_
    exact ih d fun w hw => h w (List.mem_cons_of_mem _ hw)

theorem not_mem_of_mem_wordsOf {cs : List Char} (h : '(' ∉ cs) {w : String}
    (hw : w ∈ wordsOf cs) : '(' ∉ w.toList := by
  obtain ⟨p, hp, rfl⟩ := List.mem_map.mp hw
  rw [String.toList_ofList]
  intro hmem
  obtain ⟨c, hc, heq⟩ := List.mem_map.mp (mem_of_mem_pieces hmem (List.mem_filter.mp hp).1)
  split at heq
  · cases heq
  · rw [heq] at hc
    exact h hc

end Style

namespace Markup

/-- every style without a round bracket has a name -/
theorem nameOf_ok {cs : List Char} (h : '(' ∉ cs) : ∃ name, nameOf cs = .ok name := by
  have hstyle : Style.ofText cs ≠ .error .missingPart := by
    unfold Style.ofText
    split
    · exact fun heq => nomatch heq
    · exact Style.ofWords_ne_missingPart {} fun w hw => Style.not_mem_of_mem_wordsOf h hw
  unfold nameOf styleName
  cases hs : Style.ofText cs with
  | ok s => exact ⟨_, rfl⟩
  | error fault =>
    cases fault with
    | noStyle => exact ⟨_, rfl⟩
    | missingPart => exact absurd hs hstyle

/-! ## tags -/

/-- a style that a tag opens and another closes -/
structure IsStyle (style : List Char) : Prop where
  starts : style.head?.any startsTag = true
  noSlash : style.head? ≠ some '/'
  closes : trim style ≠ []
  inside : ∀ c ∈ style, c ∉ ['[', ']', '=', '(']

variable {style body cs : List Char} {opened : List Opened}

theorem splitBody_of_not_mem (h : '=' ∉ body) : splitBody body = (body, none) := by
  have hall : ∀ c ∈ body, decide (c ≠ '=') = true := fun c hc =>
    decide_eq_true fun heq => h (heq ▸ hc)
  unfold splitBody
  rw [List.takeWhile_eq_self_iff.mpr hall, List.dropWhile_eq_nil_iff.mpr hall]
  rfl

theorem lacksPart_of_not_mem (h : '=' ∉ body) : lacksPart (.tag body) = false := by
  dsimp only [lacksPart]
  rw [splitBody_of_not_mem h]
  split
  · rfl
  · next heq => cases heq
  · rfl

theorem IsStyle.not_mem (hs : IsStyle style) {c : Char} (hc : c ∈ ['[', ']', '=', '(']) :
    c ∉ style :=
  fun hmem => hs.inside c hmem hc

theorem applyTag_open (hs : IsStyle style) {name : String} (hname : nameOf style = .ok name) :
    applyTag opened style = .ok (⟨name, none⟩ :: opened) := by
  unfold applyTag
  rw [splitBody_of_not_mem (hs.not_mem (by decide))]
  split
  · next more _ heq =>
    cases heq
    exact absurd rfl hs.noSlash
  · next heq =>
    cases heq
    rw [hname]
    rfl

theorem applyTag_close (hs : IsStyle style) {name : String} (hname : nameOf style = .ok name) :
    applyTag (⟨name, none⟩ :: opened) ('/' :: style) = .ok opened := by
  have hsplit : splitBody ('/' :: style) = ('/' :: style, none) := by
    refine splitBody_of_not_mem fun h => ?_
    rcases List.mem_cons.mp h with h | h
    · cases h
    · exact hs.not_mem (by decide) h
  have hclose : close ⟨name, none⟩ = .ok () := by
    unfold close
    split
    · next heq => cases heq
    · rfl
  unfold applyTag
  rw [hsplit]
  show (if trim style = [] then _ else do
    let name ← nameOf style
    closeNamed name (⟨_, none⟩ :: opened)) = _
  rw [if_neg hs.closes, hname]
  show closeNamed name (⟨name, none⟩ :: opened) = _
  rw [closeNamed, if_pos rfl, hclose]
  rfl

/-! ## pieces -/

theorem tagAt?_of_ne {c : Char} (h : c ≠ '[') : tagAt? (c :: cs) = none := by
  unfold tagAt?
  split
  · next heq =>
    cases heq
    exact absurd rfl h
  · rfl

/-- may a tag hold this character? -/
def isInside (c : Char) : Bool := c ≠ '[' && c ≠ ']'

theorem tagAt?_open (c : Char) (cs : List Char) :
    tagAt? ('[' :: c :: cs) =
      if startsTag c then
        match cs.dropWhile isInside with
        | ']' :: rest => some (c :: cs.takeWhile isInside, rest)
        | _ => none
      else none := rfl

theorem isInside_of_startsTag {c : Char} (h : startsTag c = true) : isInside c = true := by
  by_contra hinside
  simp only [isInside, Bool.and_eq_true, decide_eq_true_eq, not_and_or, not_not] at hinside
  rcases hinside with rfl | rfl <;> cases h

/-- a tag is read where a tag may start and the next bracket closes it -/
theorem tagAt?_ne_none_iff :
    tagAt? ('[' :: cs) ≠ none ↔
      cs.head?.any startsTag = true ∧ cs.find? (fun c => !isInside c) = some ']' := by
  cases cs with
  | nil => exact ⟨fun h => absurd rfl h, fun h => absurd h.1 (by decide)⟩
  | cons c cs =>
    rw [tagAt?_open]
    by_cases hstart : startsTag c = true
    · have hfind : (c :: cs).find? (fun c => !isInside c) = (cs.dropWhile isInside).head? := by
        rw [List.find?_cons_of_neg (by rw [isInside_of_startsTag hstart]; decide),
          List.find?_not_eq_head?_dropWhile]
      rw [if_pos hstart, hfind]
      split
      · next rest heq =>
        rw [heq]
        exact ⟨fun _ => ⟨hstart, rfl⟩, fun _ => Option.some_ne_none _⟩
      · next hne =>
        refine ⟨fun h => absurd rfl h, fun h => ?_⟩
        obtain ⟨rest, hrest⟩ := List.head?_eq_some_iff.mp h.2
        exact absurd hrest (hne rest)
    · rw [if_neg hstart]
      exact ⟨fun h => absurd rfl h, fun h => absurd h.1 hstart⟩

theorem tagAt?_eq_some {rest : List Char} (h : tagAt? cs = some (body, rest)) :
    body.head?.any startsTag = true ∧ (∀ c ∈ body, isInside c = true) ∧
      cs = '[' :: (body ++ ']' :: rest) := by
  unfold tagAt? at h
  split at h
  · next c cs =>
    split at h
    · next hstart =>
      split at h
      · next more hmore =>
        cases h
        refine ⟨hstart, ?_, ?_⟩
        · intro d hd
          rcases List.mem_cons.mp hd with rfl | hd
          · exact isInside_of_startsTag hstart
          · exact List.mem_takeWhile_imp hd
        · rw [List.cons_append, ← hmore, List.takeWhile_append_dropWhile]
      · cases h
    · cases h
  · cases h

/-- a tag in front of any text -/
theorem tagAt?_tag (hstart : body.head?.any startsTag = true)
    (hinside : ∀ c ∈ body, isInside c = true) (cs : List Char) :
    tagAt? ('[' :: (body ++ ']' :: cs)) = some (body, cs) := by
  cases body with
  | nil => cases hstart
  | cons c more =>
    have hstart : startsTag c = true := hstart
    have hmore : ∀ d ∈ more, isInside d = true := fun d hd =>
      hinside d (List.mem_cons_of_mem _ hd)
    rw [List.cons_append, tagAt?_open, if_pos hstart, List.dropWhile_append_of_pos hmore,
      List.takeWhile_append_of_pos hmore]
    show some (c :: (more ++ []), cs) = _
    rw [List.append_nil]

theorem pieces_cons_of_none {n : Nat} {c : Char} (hslash : c ≠ '\\')
    (hnone : tagAt? (c :: cs) = none) : pieces n (c :: cs) = .char n c :: pieces 0 cs := by
  rw [pieces, if_neg hslash]
  split
  · next body more hsome =>
    rw [hnone] at hsome
    cases hsome
  · rfl

theorem pieces_of_tag {n : Nat} {more : List Char} (h : tagAt? cs = some (body, more)) :
    pieces n cs = .tag n body :: pieces 0 more := by
  cases cs with
  | nil => cases h
  | cons c cs =>
    have hslash : c ≠ '\\' := by
      rintro rfl
      rw [tagAt?_of_ne (by decide)] at h
      cases h
    rw [pieces, if_neg hslash]
    split
    · next body' more' hsome =>
      rw [h] at hsome
      cases hsome
      rfl
    · next hnone =>
      rw [h] at hnone
      cases hnone

theorem pieces_slashes (n m : Nat) (cs : List Char) :
    pieces n (slashes m ++ cs) = pieces (n + m) cs := by
  induction m generalizing n with
  | zero => rfl
  | succ m ih =>
    show pieces n ('\\' :: (slashes m ++ cs)) = _
    rw [pieces, if_pos rfl, ih]
    congr 1
    omega

/-! ## printing -/

/-- a text prints when these tags are open -/
structure Prints (opened : List Opened) (cs : List Char) : Prop where
  printed : ∃ out, printParts opened (parts (pieces 0 cs)) = .ok out
  complete : (parts (pieces 0 cs)).any lacksPart = false

theorem print_ok {message : String} (h : Prints [] message.toList) :
    ∃ text, print message = .ok text := by
  obtain ⟨out, hout⟩ := h.printed
  dsimp only [print]
  rw [hout, h.complete]
  exact ⟨_, rfl⟩

theorem printParts_run (ps : List Part) (h : ∃ out, printParts opened ps = .ok out) :
    ∃ out, printParts opened (.run cs :: ps) = .ok out := by
  obtain ⟨out, hout⟩ := h
  unfold printParts
  rw [hout]
  exact ⟨_, rfl⟩

theorem printParts_fixed (ps : List Part) (h : ∃ out, printParts opened ps = .ok out) :
    ∃ out, printParts opened (.fixed cs :: ps) = .ok out := by
  obtain ⟨out, hout⟩ := h
  unfold printParts
  rw [hout]
  exact ⟨_, rfl⟩

theorem printParts_consRun (ps : List Part) (h : ∃ out, printParts opened ps = .ok out) :
    ∃ out, printParts opened (consRun cs ps) = .ok out := by
  unfold consRun
  split
  · next more ps =>
    obtain ⟨out, hout⟩ := h
    unfold printParts at hout
    cases hrest : printParts opened ps with
    | error fault =>
      rw [hrest] at hout
      cases hout
    | ok rest => exact printParts_run ps ⟨rest, hrest⟩
  · exact printParts_run ps h

theorem any_consRun (ps : List Part) : (consRun cs ps).any lacksPart = ps.any lacksPart := by
  unfold consRun
  split
  · rfl
  · exact Bool.false_or _

theorem Prints.nil : Prints opened [] := by
  have hpieces : pieces 0 [] = [] := by rw [pieces, if_pos rfl]
  constructor
  · rw [hpieces]
    exact ⟨[], rfl⟩
  · rw [hpieces]
    rfl

/-- is the text without anything that markup looks at? -/
def Literal (cs : List Char) : Prop := ∀ c ∈ cs, c ≠ '[' ∧ c ≠ '\\'

instance (cs : List Char) : Decidable (Literal cs) :=
  inferInstanceAs (Decidable (∀ c ∈ cs, c ≠ '[' ∧ c ≠ '\\'))

theorem Literal.append {a b : List Char} (ha : Literal a) (hb : Literal b) : Literal (a ++ b) := by
  intro c hc
  rcases List.mem_append.mp hc with hc | hc
  · exact ha c hc
  · exact hb c hc

theorem parts_literal_cons {c : Char} (hc : c ≠ '[' ∧ c ≠ '\\') (cs : List Char) :
    parts (pieces 0 (c :: cs)) = consRun [c] (parts (pieces 0 cs)) := by
  rw [pieces_cons_of_none hc.2 (tagAt?_of_ne hc.1), parts, if_neg hc.1]
  rfl

theorem any_lacksPart_literal {text : List Char} (h : Literal text) (cs : List Char) :
    (parts (pieces 0 (text ++ cs))).any lacksPart = (parts (pieces 0 cs)).any lacksPart := by
  induction text with
  | nil => rfl
  | cons c text ih =>
    rw [List.cons_append, parts_literal_cons (h c (List.mem_cons_self ..)), any_consRun,
      ih fun d hd => h d (List.mem_cons_of_mem _ hd)]

/-- a message may go on with a literal text -/
theorem Prints.literal {text : List Char} (h : Literal text) (hcs : Prints opened cs) :
    Prints opened (text ++ cs) := by
  refine ⟨?_, (any_lacksPart_literal h cs).trans hcs.complete⟩
  induction text with
  | nil => exact hcs.printed
  | cons c text ih =>
    rw [List.cons_append, parts_literal_cons (h c (List.mem_cons_self ..))]
    exact printParts_consRun _ (ih fun d hd => h d (List.mem_cons_of_mem _ hd))

theorem parts_tag (htag : tagAt? ('[' :: (body ++ ']' :: cs)) = some (body, cs)) :
    parts (pieces 0 ('[' :: (body ++ ']' :: cs))) =
      .fixed [] :: .tag body :: parts (pieces 0 cs) := by
  rw [pieces_of_tag htag]
  rfl

theorem any_lacksPart_tag (htag : tagAt? ('[' :: (body ++ ']' :: cs)) = some (body, cs))
    (heq : '=' ∉ body) :
    (parts (pieces 0 ('[' :: (body ++ ']' :: cs)))).any lacksPart =
      (parts (pieces 0 cs)).any lacksPart := by
  rw [parts_tag htag]
  show (false || (lacksPart (.tag body) || _)) = _
  rw [lacksPart_of_not_mem heq]
  rfl

theorem Prints.tag {opened' : List Opened}
    (htag : tagAt? ('[' :: (body ++ ']' :: cs)) = some (body, cs)) (heq : '=' ∉ body)
    (happly : applyTag opened body = .ok opened') (hcs : Prints opened' cs) :
    Prints opened ('[' :: (body ++ ']' :: cs)) := by
  refine ⟨?_, (any_lacksPart_tag htag heq).trans hcs.complete⟩
  rw [parts_tag htag]
  refine printParts_fixed _ ?_
  obtain ⟨out, hout⟩ := hcs.printed
  unfold printParts
  rw [happly]
  exact ⟨out, hout⟩

/-- the two tags around a text in a style -/
theorem IsStyle.tags (hs : IsStyle style) (cs : List Char) :
    tagAt? ('[' :: (style ++ ']' :: cs)) = some (style, cs) ∧
      tagAt? ('[' :: (('/' :: style) ++ ']' :: cs)) = some ('/' :: style, cs) := by
  have hinside : ∀ c ∈ style, isInside c = true := by
    intro c hc
    have := hs.inside c hc
    simp only [List.mem_cons, not_or] at this
    simp only [isInside, Bool.and_eq_true, decide_eq_true_eq]
    exact ⟨this.1, this.2.1⟩
  have hslash : ∀ c ∈ '/' :: style, isInside c = true := by
    intro c hc
    rcases List.mem_cons.mp hc with rfl | hc
    · rfl
    · exact hinside c hc
  exact ⟨tagAt?_tag hs.starts hinside cs, tagAt?_tag rfl hslash cs⟩

theorem IsStyle.not_mem_slash (hs : IsStyle style) : '=' ∉ '/' :: style := by
  intro h
  rcases List.mem_cons.mp h with h | h
  · cases h
  · exact hs.not_mem (by decide) h

/-- a message may go on with a style that a text opens and its end closes; what stands between
prints in front of a closing tag -/
theorem Prints.styled {text : List Char} (hs : IsStyle style)
    (htext : ∀ {opened' : List Opened} {rest : List Char}, Prints opened' ('[' :: rest) →
      Prints opened' (text ++ '[' :: rest))
    (hcs : Prints opened cs) :
    Prints opened ('[' :: (style ++ ']' :: (text ++ '[' :: '/' :: (style ++ ']' :: cs)))) := by
  obtain ⟨name, hname⟩ := nameOf_ok (hs.not_mem (by decide))
  refine Prints.tag (hs.tags _).1 (hs.not_mem (by decide)) (applyTag_open hs hname) (htext ?_)
  exact Prints.tag (hs.tags cs).2 hs.not_mem_slash (applyTag_close hs hname) hcs

/-! ## escaping -/

theorem head?_slashes_append {n : Nat} (hn : n ≠ 0) (cs : List Char) :
    (slashes n ++ cs).head? = some '\\' := by
  cases n with
  | zero => exact absurd rfl hn
  | succ n => rfl

theorem find?_slashes_append (n : Nat) (cs : List Char) :
    (slashes n ++ cs).find? (fun c => !isInside c) = cs.find? fun c => !isInside c := by
  induction n with
  | zero => rfl
  | succ n ih => exact ih

/-- a text behind `n` backslashes with its tags made texts -/
def escapedFrom (n : Nat) (cs : List Char) : List Char := (pieces n cs).flatMap escapePiece

/-- escaping keeps the first bracket of a text -/
theorem find?_escapedFrom (n : Nat) (cs : List Char) :
    (escapedFrom n cs).find? (fun c => !isInside c) = cs.find? fun c => !isInside c := by
  unfold escapedFrom
  fun_induction pieces n cs with
  | case1 => rfl
  | case2 n hn =>
    show (slashes (if n = 1 then 2 else n) ++ []).find? _ = _
    rw [find?_slashes_append]
  | case3 n rest ih => exact ih
  | case4 n c rest hslash body more htag ih =>
    obtain ⟨-, -, heq⟩ := tagAt?_eq_some htag
    rw [heq, List.flatMap_cons, escapePiece, List.append_assoc, List.append_assoc,
      find?_slashes_append]
    rfl
  | case5 n c rest hslash hnone ih =>
    rw [List.flatMap_cons, escapePiece, List.append_assoc, find?_slashes_append]
    show (c :: (pieces 0 rest).flatMap escapePiece).find? _ = _
    rw [List.find?_cons, List.find?_cons, ih]

/-- an escaped text starts like a tag only if the text does -/
theorem startsTag_of_escapedFrom (n : Nat) (cs : List Char)
    (h : (escapedFrom n cs).head?.any startsTag = true) :
    n = 0 ∧ cs.head?.any startsTag = true := by
  have hslashes {n : Nat} (hn : n ≠ 0) {x : List Char}
      (h : (slashes n ++ x).head?.any startsTag = true) : False := by
    rw [head?_slashes_append hn] at h
    cases h
  unfold escapedFrom at h
  fun_induction pieces n cs with
  | case1 => cases h
  | case2 n hn =>
    refine (hslashes (n := if n = 1 then 2 else n) (x := []) ?_ h).elim
    split <;> omega
  | case3 n rest ih => exact absurd (ih h).1 (Nat.succ_ne_zero n)
  | case4 n c rest hslash body more htag ih =>
    rw [List.flatMap_cons, escapePiece, List.append_assoc, List.append_assoc] at h
    exact (hslashes (by omega) h).elim
  | case5 n c rest hslash hnone ih =>
    rw [List.flatMap_cons, escapePiece, List.append_assoc] at h
    by_cases hn : n = 0
    · rw [hn] at h
      exact ⟨hn, h⟩
    · exact (hslashes hn h).elim

/-- a message may go on with a row of backslashes in front of any character but a bracket -/
theorem prints_slashes {c : Char} (hc : c ≠ '[' ∧ c ≠ '\\') (n : Nat) (hcs : Prints opened cs) :
    Prints opened (slashes n ++ c :: cs) := by
  have hpieces : pieces 0 (slashes n ++ c :: cs) = .char n c :: pieces 0 cs := by
    rw [pieces_slashes, Nat.zero_add, pieces_cons_of_none hc.2 (tagAt?_of_ne hc.1)]
  constructor
  · rw [hpieces]
    exact printParts_consRun _ hcs.printed
  · rw [hpieces]
    exact (any_consRun _).trans hcs.complete

theorem prints_slashes_last (n : Nat) : Prints opened (slashes n ++ []) := by
  by_cases hn : n = 0
  · rw [hn]
    exact Prints.nil
  · have hpieces : pieces 0 (slashes n ++ []) = [.tail n] := by
      rw [pieces_slashes, Nat.zero_add, pieces, if_neg hn]
    constructor
    · rw [hpieces]
      exact printParts_consRun _ ⟨[], rfl⟩
    · rw [hpieces]
      rfl

section
variable {more : List Char}

/-- what is no tag in a text is none in the escaped text, if no bracket behind it closes one -/
theorem tagAt?_escapedFrom_append (hmore : more.find? (fun c => !isInside c) ≠ some ']') {c : Char}
    (h : tagAt? (c :: cs) = none) : tagAt? (c :: (escapedFrom 0 cs ++ more)) = none := by
  by_cases hc : c = '['
  · subst hc
    by_contra htag
    obtain ⟨hstart, hclose⟩ := tagAt?_ne_none_iff.mp htag
    rw [List.find?_append, find?_escapedFrom] at hclose
    cases hfind : cs.find? fun c => !isInside c with
    | none =>
      rw [hfind] at hclose
      exact hmore hclose
    | some d =>
      rw [hfind] at hclose
      have hstart : (escapedFrom 0 cs).head?.any startsTag = true := by
        cases hescaped : escapedFrom 0 cs with
        | nil =>
          have hempty := find?_escapedFrom 0 cs
          rw [hescaped, hfind] at hempty
          cases hempty
        | cons e es =>
          rw [hescaped] at hstart
          exact hstart
      exact tagAt?_ne_none_iff.mpr
        ⟨(startsTag_of_escapedFrom 0 cs hstart).2, hfind.trans hclose⟩ h
  · exact tagAt?_of_ne hc

/-- a message may go on with an escaped text and with what prints behind any backslashes -/
theorem prints_escapedFrom (hmore : more.find? (fun c => !isInside c) ≠ some ']')
    (hprints : ∀ n, Prints opened (slashes n ++ more)) (n : Nat) (cs : List Char) :
    Prints opened (escapedFrom n cs ++ more) := by
  unfold escapedFrom
  fun_induction pieces n cs with
  | case1 => exact hprints 0
  | case2 n hn =>
    rw [List.flatMap_singleton]
    exact hprints _
  | case3 n rest ih => exact ih
  | case4 n c rest hslash body after htag ih =>
    -- the tag stands behind an odd number of backslashes
    obtain ⟨hstart, hinside, -⟩ := tagAt?_eq_some htag
    have happend : (Piece.tag n body :: pieces 0 after).flatMap escapePiece ++ more =
        slashes (2 * n + 1) ++
          '[' :: (body ++ ']' :: (escapedFrom 0 after ++ more)) := by
      rw [List.flatMap_cons, escapePiece]
      simp only [List.append_assoc, List.cons_append, List.nil_append]
      rfl
    have hpieces : parts (pieces 0 (slashes (2 * n + 1) ++
        '[' :: (body ++ ']' :: (escapedFrom 0 after ++ more)))) =
        .fixed (slashes ((2 * n + 1) / 2)) :: .fixed ('[' :: body ++ [']']) ::
          parts (pieces 0 (escapedFrom 0 after ++ more)) := by
      have hodd : (2 * n + 1) % 2 = 1 := by omega
      rw [pieces_slashes, Nat.zero_add, pieces_of_tag (tagAt?_tag hstart hinside _), parts,
        if_pos hodd]
    rw [happend]
    constructor
    · rw [hpieces]
      exact printParts_fixed _ (printParts_fixed _ ih.printed)
    · rw [hpieces]
      exact ih.complete
  | case5 n c rest hslash hnone ih =>
    have happend : (Piece.char n c :: pieces 0 rest).flatMap escapePiece ++ more =
        slashes n ++ c :: (escapedFrom 0 rest ++ more) := by
      rw [List.flatMap_cons, escapePiece]
      simp only [List.append_assoc, List.cons_append, List.nil_append]
      rfl
    have hpieces : pieces 0 (slashes n ++ c :: (escapedFrom 0 rest ++ more)) =
        .char n c :: pieces 0 (escapedFrom 0 rest ++ more) := by
      rw [pieces_slashes, Nat.zero_add,
        pieces_cons_of_none hslash (tagAt?_escapedFrom_append hmore hnone)]
    rw [happend]
    constructor
    · rw [hpieces]
      exact printParts_consRun _ ih.printed
    · rw [hpieces]
      exact (any_consRun _).trans ih.complete

/-- a message may go on with an escaped text and with what prints behind any backslashes -/
theorem prints_escape_append (hmore : more.find? (fun c => !isInside c) ≠ some ']')
    (hprints : ∀ n, Prints opened (slashes n ++ more)) (text : String) :
    Prints opened ((escape text).toList ++ more) := by
  unfold escape
  rw [String.toList_ofList]
  exact prints_escapedFrom hmore hprints 0 text.toList

end

/-- a message may go on with an escaped text and with a literal text in front of a tag -/
theorem prints_escape_literal (text : String) {c : Char} {after : List Char}
    (hlit : Literal (c :: after)) (hclose : ']' ∉ c :: after) (h : Prints opened ('[' :: cs)) :
    Prints opened ((escape text).toList ++ (c :: after ++ '[' :: cs)) := by
  refine prints_escape_append ?_ (fun n => ?_) text
  · have hnone : (c :: after).find? (fun c => !isInside c) = none := by
      refine List.find?_eq_none.mpr fun d hd hinside => ?_
      simp only [isInside, Bool.not_eq_true', Bool.and_eq_false_iff, decide_eq_false_iff_not,
        not_not] at hinside
      rcases hinside with rfl | rfl
      · exact (hlit _ hd).1 rfl
      · exact hclose hd
    rw [List.find?_append, hnone, Option.none_or, List.find?_cons_of_pos rfl]
    decide
  · exact prints_slashes (hlit c (List.mem_cons_self ..)) n
      (Prints.literal (fun d hd => hlit d (List.mem_cons_of_mem _ hd)) h)

/-- a message may end with an escaped text -/
theorem prints_escape (text : String) : Prints opened (escape text).toList := by
  rw [← List.append_nil (escape text).toList]
  exact prints_escape_append (by decide) prints_slashes_last text

end Markup

end DdlToJava.Console
