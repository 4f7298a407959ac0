import DdlToJava.Proofs.Console.Verbatim

/-!
# What an escaped text prints

An escaped text holds no tag, so markup gives it back but for a backslash in front of a bracket that
starts no tag, which goes.  Then come the emoji that its stretches between brackets call, and the
control characters that the console replaces or leaves out.  `escapedShown` puts this together, and
`PrintsEscaped` says when the text comes out as it is.

* `pieces_escapedFrom_append`   an escaped text in front of a message, read as pieces;
* `printParts_append_text`      parts without tags print their texts;
* `escapedShown`, `print_styled_escape`
                                what an escaped text in a style prints;
* `PrintsEscaped`               the texts that come out as they are (`PrintsEscaped.settled`), which
                                lose no mark (`PrintsEscaped.of_countP`).
-/

namespace DdlToJava.Console

open Text

namespace Markup

/-! ## pieces of an escaped text -/

/-- the piece of the escaped text that a piece becomes -/
def Piece.escaped : Piece → Piece
  | .tag n body => .tag (2 * n + 1) body
  | p => p

/-- only a text that ends in a backslash has a tail -/
theorem getLast?_of_tail_mem {n k : Nat} {cs : List Char} (h : .tail k ∈ pieces n cs) :
    (slashes n ++ cs).getLast? = some '\\' := by
  have hbehind {a b : List Char} (hb : b.getLast? = some '\\') :
      (a ++ b).getLast? = some '\\' := by
    rw [List.getLast?_append, hb]
    rfl
  fun_induction pieces n cs with
  | case1 => cases h
  | case2 n hn =>
    obtain ⟨n, rfl⟩ := Nat.exists_eq_succ_of_ne_zero hn
    rw [slashes_succ_append]
    exact hbehind rfl
  | case3 n rest ih =>
    rw [← slashes_succ_append]
    exact ih h
  | case4 n c rest hslash body more htag ih =>
    obtain ⟨-, -, heq⟩ := tagAt?_eq_some htag
    have hmore := ih ((List.mem_cons.mp h).resolve_left fun heq => by cases heq)
    have hsplit : slashes n ++ c :: rest = (slashes n ++ '[' :: (body ++ [']'])) ++ more := by
      rw [heq]
      simp
    rw [hsplit]
    exact hbehind hmore
  | case5 n c rest hslash hnone ih =>
    have hrest := ih ((List.mem_cons.mp h).resolve_left fun heq => by cases heq)
    rw [← List.singleton_append, ← List.append_assoc]
    exact hbehind hrest

/-- an escaped text in front of a message that closes no bracket -/
theorem pieces_escapedFrom_append {more : List Char}
    (hmore : more.find? (fun c => !isInside c) ≠ some ']') (n : Nat) (cs : List Char)
    (htail : ∀ k, .tail k ∉ pieces n cs) :
    pieces 0 (escapedFrom n cs ++ more) = (pieces n cs).map Piece.escaped ++ pieces 0 more := by
  unfold escapedFrom
  fun_induction pieces n cs with
  | case1 => rfl
  | case2 n hn => exact absurd (List.mem_singleton_self _) (htail n)
  | case3 n rest ih => exact ih htail
  | case4 n c rest hslash body after htag ih =>
    obtain ⟨hstart, hinside, -⟩ := tagAt?_eq_some htag
    have htext : (Piece.tag n body :: pieces 0 after).flatMap escapePiece ++ more =
        slashes (2 * n + 1) ++ '[' :: (body ++ ']' :: (escapedFrom 0 after ++ more)) := by
      rw [List.flatMap_cons, escapePiece]
      simp only [List.append_assoc, List.cons_append, List.nil_append]
      rfl
    rw [htext, pieces_slashes, Nat.zero_add, pieces_of_tag (tagAt?_tag hstart hinside _)]
    exact congrArg _ (ih fun k hk => htail k (List.mem_cons_of_mem _ hk))
  | case5 n c rest hslash hnone ih =>
    have htext : (Piece.char n c :: pieces 0 rest).flatMap escapePiece ++ more =
        slashes n ++ c :: (escapedFrom 0 rest ++ more) := by
      rw [List.flatMap_cons, escapePiece]
      simp only [List.append_assoc, List.cons_append, List.nil_append]
      rfl
    rw [htext, pieces_slashes, Nat.zero_add,
      pieces_cons_of_none hslash (tagAt?_escapedFrom_append hmore hnone)]
    exact congrArg _ (ih fun k hk => htail k (List.mem_cons_of_mem _ hk))

/-! ## parts without tags -/

/-- is the part a tag? -/
def Part.isTag : Part → Bool
  | .tag _ => true
  | _ => false

theorem consRun_append (cs : List Char) (ps : List Part) {qs : List Part}
    (h : ∀ more, qs.head? ≠ some (.run more)) : consRun cs (ps ++ qs) = consRun cs ps ++ qs := by
  cases ps with
  | nil =>
    cases qs with
    | nil => rfl
    | cons q qs =>
      cases q with
      | run more => exact absurd rfl (h more)
      | fixed _ => rfl
      | tag _ => rfl
  | cons p ps => cases p <;> rfl

/-- a tag ends the run in front of it -/
theorem parts_append_tag (ps : List Piece) (n : Nat) (body : List Char) (qs : List Piece) :
    parts (ps ++ .tag n body :: qs) = parts ps ++ parts (.tag n body :: qs) := by
  have hhead : ∀ more, (parts (.tag n body :: qs)).head? ≠ some (.run more) := fun more h => by
    cases h
  induction ps with
  | nil => rfl
  | cons p ps ih =>
    cases p with
    | char m c =>
      rw [List.cons_append, parts, parts, ih]
      exact consRun_append _ _ hhead
    | tail m =>
      rw [List.cons_append, parts, parts, ih]
      exact consRun_append _ _ hhead
    | tag m b =>
      rw [List.cons_append, parts, parts, ih]
      rfl

theorem not_isTag_consRun (cs : List Char) {ps : List Part} (h : ∀ p ∈ ps, p.isTag = false) :
    ∀ p ∈ consRun cs ps, p.isTag = false := by
  unfold consRun
  split
  · intro p hp
    rcases List.mem_cons.mp hp with rfl | hp
    · rfl
    · exact h p (List.mem_cons_of_mem _ hp)
  · intro p hp
    rcases List.mem_cons.mp hp with rfl | hp
    · rfl
    · exact h p hp

section
variable {opened : List Opened} {ps : List Part} (h : ∀ p ∈ ps, p.isTag = false)
include h

/-- parts without tags print their texts, with emoji in them, in front of the parts behind -/
theorem printParts_append_text (qs : List Part) :
    printParts opened (ps ++ qs) =
      (printParts opened qs).map ((ps.flatMap fun p => Emoji.replace p.text) ++ ·) := by
  induction ps with
  | nil => cases hqs : printParts opened qs <;> simp [hqs, Except.map]
  | cons p ps ih =>
    have hp := h p (List.mem_cons_self ..)
    have hps := ih fun q hq => h q (List.mem_cons_of_mem p hq)
    have hfirst (cs : List Char) (hcs : p.text = cs) :
        ((printParts opened (ps ++ qs)).bind fun printed =>
          .ok (Emoji.replace cs ++ printed)) =
          (printParts opened qs).map
            (((p :: ps).flatMap fun p => Emoji.replace p.text) ++ ·) := by
      rw [hps, List.flatMap_cons, hcs]
      cases printParts opened qs with
      | error fault => rfl
      | ok printed =>
        exact congrArg Except.ok (List.append_assoc ..).symm
    cases p with
    | run cs => exact hfirst cs rfl
    | fixed cs => exact hfirst cs rfl
    | tag body => cases hp

theorem any_lacksPart_append_text (qs : List Part) :
    (ps ++ qs).any lacksPart = qs.any lacksPart := by
  have hnone : ps.any lacksPart = false := List.any_eq_false.mpr fun p hp => by
    have := h p hp
    cases p with
    | run cs => exact Bool.false_ne_true
    | fixed cs => exact Bool.false_ne_true
    | tag body => cases this
  rw [List.any_append, hnone, Bool.false_or]

end

/-! ## an escaped text in a style -/

/-- the parts of an escaped text -/
def escapedParts (cs : List Char) : List Part := parts ((pieces 0 cs).map Piece.escaped)

/-- there is no tag in an escaped text -/
theorem not_isTag_parts_escaped (ps : List Piece) :
    ∀ p ∈ parts (ps.map Piece.escaped), p.isTag = false := by
  induction ps with
  | nil => nofun
  | cons p ps ih =>
    cases p with
    | char n c => exact not_isTag_consRun _ ih
    | tail n => exact not_isTag_consRun _ ih
    | tag n body =>
      have hodd : (2 * n + 1) % 2 = 1 := by omega
      intro q hq
      rw [List.map_cons, Piece.escaped, parts, if_pos hodd] at hq
      rcases List.mem_cons.mp hq with rfl | hq
      · rfl
      · rcases List.mem_cons.mp hq with rfl | hq
        · rfl
        · exact ih q hq

theorem not_isTag_escapedParts (cs : List Char) : ∀ p ∈ escapedParts cs, p.isTag = false :=
  not_isTag_parts_escaped (pieces 0 cs)

/-- what an escaped text prints before the console settles it -/
def escapedShown (cs : List Char) : List Char :=
  (escapedParts cs).flatMap fun p => Emoji.replace p.text

/-- an escaped text in a style prints what it shows, unless it ends in a backslash -/
theorem print_styled_escape {style : List Char} (hs : IsStyle style) {message text : String}
    (hmessage : message.toList =
      '[' :: (style ++ ']' :: ((escape text).toList ++ '[' :: '/' :: (style ++ [']']))))
    (hlast : text.toList.getLast? ≠ some '\\') :
    print message = .ok (String.ofList (settled (escapedShown text.toList))) := by
  obtain ⟨name, hname⟩ := nameOf_ok (hs.not_mem (by decide))
  have hpieces : pieces 0 (escapedFrom 0 text.toList ++
      '[' :: (('/' :: style) ++ ']' :: [])) =
      (pieces 0 text.toList).map Piece.escaped ++ [.tag 0 ('/' :: style)] := by
    have hopen : ('[' :: (('/' :: style) ++ ']' :: [])).find? (fun c => !isInside c) =
        some '[' := rfl
    rw [pieces_escapedFrom_append (by rw [hopen]; decide) 0 text.toList
      fun k hk => hlast (getLast?_of_tail_mem hk), pieces_of_tag (hs.tags []).2]
    congr 1
    rw [pieces, if_pos rfl]
  have hparts : parts (pieces 0 message.toList) =
      .fixed [] :: .tag style ::
        (escapedParts text.toList ++ [.fixed [], .tag ('/' :: style)]) := by
    have hescape : (escape text).toList = escapedFrom 0 text.toList := String.toList_ofList
    rw [hmessage, hescape, parts_tag (hs.tags _).1]
    show _ :: _ :: parts (pieces 0 (escapedFrom 0 text.toList ++
      '[' :: (('/' :: style) ++ ']' :: []))) = _
    rw [hpieces, parts_append_tag]
    rfl
  have hclose : printParts [⟨name, none⟩] [.fixed [], .tag ('/' :: style)] = .ok [] := by
    rw [printParts, printParts, applyTag_close hs hname, Emoji.replace_nil]
    rfl
  have hprinted : printParts [] (parts (pieces 0 message.toList)) =
      .ok (escapedShown text.toList) := by
    rw [hparts, printParts, printParts, applyTag_open hs hname, Emoji.replace_nil]
    show (printParts [⟨name, none⟩] (escapedParts text.toList ++ _)).bind _ = _
    rw [printParts_append_text (not_isTag_escapedParts _), hclose]
    show Except.ok (escapedShown text.toList ++ []) = _
    rw [List.append_nil]
  have hcomplete : (parts (pieces 0 message.toList)).any lacksPart = false := by
    rw [hparts]
    show (lacksPart (.tag style) || (escapedParts text.toList ++ _).any lacksPart) = false
    rw [lacksPart_of_not_mem (hs.not_mem (by decide)),
      any_lacksPart_append_text (not_isTag_escapedParts _), Bool.false_or]
    show (lacksPart (.tag ('/' :: style)) || false) = false
    rw [lacksPart_of_not_mem hs.not_mem_slash, Bool.false_or]
  dsimp only [print]
  rw [hprinted, hcomplete]
  rfl

/-! ## texts that come out as they are -/

/-- the text that markup makes of an escaped piece -/
def Piece.kept (p : Piece) : List Char := p.escaped.shown

theorem kept_tag (n : Nat) (body : List Char) :
    Piece.kept (.tag n body) = Piece.source (.tag n body) := by
  have hodd : (2 * n + 1) % 2 = 1 := by omega
  have hhalf : (2 * n + 1) / 2 = n := by omega
  simp only [Piece.kept, Piece.escaped, Piece.shown, Piece.source, hodd, hhalf, if_true,
    List.cons_append]

theorem text_escapedParts (cs : List Char) :
    (escapedParts cs).flatMap Part.text = (pieces 0 cs).flatMap Piece.kept := by
  unfold escapedParts
  rw [text_parts, List.flatMap_map]
  rfl

theorem countP_kept_le (p : Piece) : p.kept.countP isMark ≤ p.source.countP isMark := by
  cases p with
  | char n c => exact countP_shown_le _
  | tail n => exact countP_shown_le _
  | tag n body => rw [kept_tag]

theorem kept_eq_source {p : Piece} (h : ∀ n, p = .char n '[' → n = 0) : p.kept = p.source := by
  cases p with
  | char n c =>
    show slashes (if c = '[' then n - 1 else n) ++ [c] = slashes n ++ [c]
    split
    · next hc =>
      rw [h n (by rw [hc])]
    · rfl
  | tail n => rfl
  | tag n body => exact kept_tag n body

end Markup

open Markup

/-- a text that comes out as it is where it is escaped -/
structure PrintsEscaped (cs : List Char) : Prop where
  /-- a backslash in front of a bracket that starts no tag would go -/
  noSlash : ∀ n, .char n '[' ∈ pieces 0 cs → n = 0
  /-- no part of it calls an emoji -/
  noEmoji : ∀ p ∈ escapedParts cs, Emoji.replace p.text = p.text
  /-- no tab, and nothing that the console leaves out -/
  noControl : ∀ c ∈ cs, c ≠ '\t' ∧ isDropped c = false

/-- a text that loses no mark and has no control character to lose -/
theorem PrintsEscaped.of_countP {cs : List Char}
    (hcount : cs.countP isMark ≤ (escapedShown cs).countP isMark)
    (hcontrol : ∀ c ∈ cs, c ≠ '\t' ∧ isDropped c = false) : PrintsEscaped cs := by
  have hsource : (pieces 0 cs).flatMap Piece.source = cs := source_pieces 0 cs
  have htext := text_escapedParts cs
  have hshown := countP_flatMap_le (fun p : Part => Emoji.countP_replace_le p.text)
    (escapedParts cs)
  have hkept := countP_flatMap_le countP_kept_le (pieces 0 cs)
  rw [hsource] at hkept
  change _ ≤ ((escapedParts cs).flatMap Part.text).countP isMark at hshown
  rw [htext] at hshown
  have hshown' : cs.countP isMark ≤ ((pieces 0 cs).flatMap Piece.kept).countP isMark :=
    hcount.trans hshown
  refine ⟨fun n hmem => ?_, fun p hp => ?_, hcontrol⟩
  · have hall := countP_le_of_flatMap countP_kept_le (l := pieces 0 cs) (by rw [hsource]; omega)
    have hn := hall _ hmem
    simp only [Piece.kept, Piece.escaped, Piece.shown, Piece.source, List.countP_append,
      countP_slashes, if_true] at hn
    omega
  · have hall := countP_le_of_flatMap (fun p : Part => Emoji.countP_replace_le p.text)
      (l := escapedParts cs) (by
        change ((escapedParts cs).flatMap Part.text).countP isMark ≤
          (escapedShown cs).countP isMark
        rw [htext]
        omega)
    exact Emoji.replace_eq_of_countP
      (Nat.le_antisymm (Emoji.countP_replace_le p.text) (hall p hp))

/-- such a text comes out as it is -/
theorem PrintsEscaped.settled {cs : List Char} (h : PrintsEscaped cs) :
    settled (escapedShown cs) = cs := by
  have hsource : (pieces 0 cs).flatMap Piece.source = cs := source_pieces 0 cs
  have htext := text_escapedParts cs
  have hkept : (pieces 0 cs).map Piece.kept = (pieces 0 cs).map Piece.source :=
    List.map_congr_left fun p hp => kept_eq_source fun n hn => h.noSlash n (hn ▸ hp)
  have hshown : (escapedParts cs).map (fun p => Emoji.replace p.text) =
      (escapedParts cs).map Part.text := List.map_congr_left h.noEmoji
  rw [List.flatMap_def] at hsource htext
  unfold escapedShown
  rw [List.flatMap_def, hshown, htext, List.flatMap_def, hkept, hsource]
  exact settled_of_noControl h.noControl

end DdlToJava.Console
