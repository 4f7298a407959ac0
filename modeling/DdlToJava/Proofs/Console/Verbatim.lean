import DdlToJava.Proofs.Console.Emoji
import DdlToJava.Proofs.Console.Markup
import DdlToJava.Proofs.Text.Joined

/-!
# Texts that print as they are

A text in a message prints as it is if it holds no tag, no backslash in front of an opening bracket,
no emoji, no tab and none of the characters that the console leaves out.  These are all such texts:
whatever markup takes out of a text takes marks with it, and nothing brings marks in.

* `countP_expandTabs`         tabs make no difference to the other characters;
* `Verbatim`                  the texts that print as they are;
* `Verbatim.printParts`, `settled_of_noControl`
                              they do;
* `countP_printed_le`, `countP_settled`
                              printing brings no marks;
* `Verbatim.of_countP`        a text that keeps its marks is one of them.
-/

namespace DdlToJava.Console

open Text

/-! ## tabs -/

/-- tabs become blanks, and the other characters stay -/
theorem countP_fillParts {p : Char → Bool} (hblank : p ' ' = false) (htab : p '\t' = false)
    (position : Nat) (ps : List (List Char)) :
    (fillParts position ps).countP p = (['\t'].intercalate ps).countP p := by
  fun_induction fillParts position ps with
  | case1 => rfl
  | case2 position line => rw [List.intercalate_singleton]
  | case3 position line next ps reached gap ih =>
    rw [List.intercalate_cons_cons, List.countP_append, List.countP_append, List.countP_append,
      List.countP_append, ← ih, List.countP_cons_of_neg (by rw [hblank]; decide),
      List.countP_replicate, hblank, List.countP_singleton, htab]
    rfl

theorem countP_joined_map {p : Char → Bool} {f : List Char → List Char}
    (h : ∀ line, (f line).countP p = line.countP p) (ls : List (List Char)) :
    (joined (ls.map f)).countP p = (joined ls).countP p := by
  induction ls with
  | nil => rfl
  | cons l ls ih =>
    by_cases hls : ls = []
    · rw [hls, List.map_singleton, joined_singleton, joined_singleton, h]
    · rw [List.map_cons, joined_cons (by simpa using hls), joined_cons hls, List.countP_append,
        List.countP_append, List.countP_cons, List.countP_cons, h, ih]

theorem countP_expandTabs {p : Char → Bool} (hblank : p ' ' = false) (htab : p '\t' = false)
    (cs : List Char) : (expandTabs cs).countP p = cs.countP p := by
  have hline : ∀ line, (fillParts 0 (pieces '\t' line)).countP p = line.countP p := fun line => by
    rw [countP_fillParts hblank htab, intercalate_pieces]
  have hlines : cs.countP p = (joined (pieces '\n' cs)).countP p := by
    unfold joined
    rw [intercalate_pieces]
  rw [hlines]
  exact countP_joined_map hline (pieces '\n' cs)

theorem not_mem_fillParts (position : Nat) {ps : List (List Char)} (h : ∀ p ∈ ps, '\t' ∉ p) :
    '\t' ∉ fillParts position ps := by
  fun_induction fillParts position ps with
  | case1 => exact List.not_mem_nil
  | case2 position line => exact h line (List.mem_cons_self ..)
  | case3 position line next ps reached gap ih =>
    have hline := h line (List.mem_cons_self ..)
    have hrest := ih fun p hp => h p (List.mem_cons_of_mem _ hp)
    intro hmem
    simp only [List.mem_append, List.mem_cons, List.mem_replicate] at hmem
    rcases hmem with (hmem | hmem | ⟨-, hmem⟩) | hmem
    · exact hline hmem
    · cases hmem
    · cases hmem
    · exact hrest hmem

/-- no tab is left -/
theorem not_mem_expandTabs (cs : List Char) : '\t' ∉ expandTabs cs := by
  intro hmem
  have hfilled : '\t' ∈ joined ((pieces '\n' cs).map fun line => fillParts 0 (pieces '\t' line)) :=
    hmem
  rcases mem_joined hfilled with hmem | ⟨l, hl, hmem⟩
  · cases hmem
  · obtain ⟨line, -, rfl⟩ := List.mem_map.mp hl
    exact not_mem_fillParts 0 (fun p hp => not_mem_of_mem_pieces hp) hmem

theorem expandTabs_of_not_mem {cs : List Char} (h : '\t' ∉ cs) : expandTabs cs = cs := by
  have hline : ∀ line ∈ pieces '\n' cs, fillParts 0 (pieces '\t' line) = id line := by
    intro line hl
    rw [pieces_of_not_mem fun hmem => h (mem_of_mem_pieces hmem hl), fillParts_singleton, id]
  unfold expandTabs
  rw [List.map_congr_left hline, List.map_id, intercalate_pieces]

namespace Markup

/-! ## pieces that print as they are -/

/-- does the piece print as it is, but for emoji? -/
def Piece.isPlain : Piece → Bool
  | .char n c => n = 0 || c ≠ '['
  | .tail _ => true
  | .tag _ _ => false

/-- the text of a piece in the message -/
def Piece.source : Piece → List Char
  | .char n c => slashes n ++ [c]
  | .tail n => slashes n
  | .tag n body => slashes n ++ '[' :: (body ++ [']'])

/-- the text that markup makes of a piece -/
def Piece.shown : Piece → List Char
  | .char n c => slashes (if c = '[' then n - 1 else n) ++ [c]
  | .tail n => slashes n
  | .tag n body => slashes (n / 2) ++ if n % 2 = 1 then '[' :: body ++ [']'] else []

/-- the text of a part -/
def Part.text : Part → List Char
  | .run cs => cs
  | .fixed cs => cs
  | .tag _ => []

theorem slashes_succ_append (n : Nat) (cs : List Char) :
    slashes (n + 1) ++ cs = slashes n ++ '\\' :: cs := by
  unfold slashes
  rw [List.replicate_succ', List.append_assoc]
  rfl

/-- the pieces of a text, one behind the other, are the text -/
theorem source_pieces (n : Nat) (cs : List Char) :
    (pieces n cs).flatMap Piece.source = slashes n ++ cs := by
  fun_induction pieces n cs with
  | case1 => rfl
  | case2 n hn =>
    rw [List.flatMap_singleton, List.append_nil]
    rfl
  | case3 n rest ih => rw [ih, slashes_succ_append]
  | case4 n c rest hslash body more htag ih =>
    obtain ⟨-, -, heq⟩ := tagAt?_eq_some htag
    rw [List.flatMap_cons, ih, heq]
    simp [Piece.source, slashes]
  | case5 n c rest hslash hnone ih =>
    rw [List.flatMap_cons, ih]
    simp [Piece.source, slashes]

theorem text_consRun (cs : List Char) (ps : List Part) :
    (consRun cs ps).flatMap Part.text = cs ++ ps.flatMap Part.text := by
  unfold consRun
  split
  · exact List.append_assoc _ _ _
  · rfl

/-- the parts of a message hold what markup makes of its pieces -/
theorem text_parts (ps : List Piece) :
    (parts ps).flatMap Part.text = ps.flatMap Piece.shown := by
  induction ps with
  | nil => rfl
  | cons p ps ih =>
    rw [List.flatMap_cons, ← ih]
    cases p with
    | char n c => exact text_consRun _ _
    | tail n => exact text_consRun _ _
    | tag n body =>
      have hparts : parts (.tag n body :: ps) = .fixed (slashes (n / 2)) ::
          (if n % 2 = 1 then .fixed ('[' :: body ++ [']']) else .tag body) :: parts ps := rfl
      rw [hparts, Piece.shown]
      by_cases hodd : n % 2 = 1
      · simp [hodd, Part.text]
      · simp [hodd, Part.text]

/-! ## marks -/

theorem countP_slashes (n : Nat) : (slashes n).countP isMark = n := by
  unfold slashes
  rw [List.countP_replicate]
  rfl

theorem countP_shown_le (p : Piece) : p.shown.countP isMark ≤ p.source.countP isMark := by
  cases p with
  | char n c =>
    simp only [Piece.shown, Piece.source, List.countP_append, countP_slashes]
    split <;> omega
  | tail n => exact Nat.le_refl _
  | tag n body =>
    simp only [Piece.shown, Piece.source, List.countP_append, countP_slashes]
    split
    · simp only [List.cons_append]
      omega
    · rw [List.countP_nil]
      omega

/-- what markup changes in a piece takes a mark with it -/
theorem isPlain_of_countP {p : Piece} (h : p.source.countP isMark ≤ p.shown.countP isMark) :
    p.isPlain = true := by
  cases p with
  | char n c =>
    simp only [Piece.shown, Piece.source, List.countP_append, countP_slashes] at h
    simp only [Piece.isPlain, Bool.or_eq_true, decide_eq_true_eq]
    split at h
    · exact .inl (by omega)
    · exact .inr (by assumption)
  | tail n => rfl
  | tag n body =>
    have hopen : isMark '[' = true := by decide
    simp only [Piece.shown, Piece.source, List.countP_append, countP_slashes] at h
    split at h
    · simp only [List.cons_append] at h
      omega
    · rw [List.countP_nil, List.countP_cons_of_pos hopen] at h
      omega

theorem all_isPlain_of_countP {ps : List Piece}
    (h : (ps.flatMap Piece.source).countP isMark ≤ (ps.flatMap Piece.shown).countP isMark) :
    ps.all Piece.isPlain = true :=
  List.all_eq_true.mpr fun p hp => isPlain_of_countP (countP_le_of_flatMap countP_shown_le h p hp)

/-- a part prints its text, with emoji in it, in front of the parts behind -/
theorem printParts_cons_eq_ok {opened : List Opened} {p : Part} {ps : List Part} {out : List Char}
    (h : printParts opened (p :: ps) = .ok out) :
    ∃ opened' printed, printParts opened' ps = .ok printed ∧
      out = Emoji.replace p.text ++ printed := by
  have hbehind {cs : List Char}
      (h : ((printParts opened ps).bind fun printed => .ok (Emoji.replace cs ++ printed)) =
        .ok out) :
      ∃ opened' printed, printParts opened' ps = .ok printed ∧
        out = Emoji.replace cs ++ printed := by
    cases hrest : printParts opened ps with
    | error fault =>
      rw [hrest] at h
      cases h
    | ok printed =>
      rw [hrest] at h
      cases h
      exact ⟨opened, printed, hrest, rfl⟩
  cases p with
  | run cs => exact hbehind h
  | fixed cs => exact hbehind h
  | tag body =>
    rw [printParts] at h
    cases happly : applyTag opened body with
    | error fault =>
      rw [happly] at h
      cases h
    | ok opened' =>
      rw [happly] at h
      refine ⟨opened', out, h, ?_⟩
      rw [Part.text, Emoji.replace_nil, List.nil_append]

/-- printing brings no new marks -/
theorem countP_printParts_le {opened : List Opened} {ps : List Part} {out : List Char}
    (h : printParts opened ps = .ok out) :
    out.countP isMark ≤ (ps.flatMap Part.text).countP isMark := by
  induction ps generalizing opened out with
  | nil =>
    cases h
    exact Nat.le_refl 0
  | cons p ps ih =>
    obtain ⟨opened', printed, hrest, rfl⟩ := printParts_cons_eq_ok h
    have hreplace := Emoji.countP_replace_le p.text
    have hprinted := ih hrest
    rw [List.flatMap_cons, List.countP_append, List.countP_append]
    omega

/-! ## plain texts -/

theorem parts_cons_of_isPlain {p : Piece} (h : p.isPlain = true) (ps : List Piece) :
    parts (p :: ps) = consRun p.source (parts ps) := by
  cases p with
  | char n c =>
    have hslashes : (if c = '[' then n - 1 else n) = n := by
      simp only [Piece.isPlain, Bool.or_eq_true, decide_eq_true_eq] at h
      split
      · rcases h with h | h
        · omega
        · contradiction
      · rfl
    rw [parts, hslashes]
    rfl
  | tail n => rfl
  | tag n body => cases h

/-- pieces that print as they are make one run -/
theorem parts_of_isPlain {ps : List Piece} (h : ps.all Piece.isPlain = true) :
    parts ps = if ps = [] then [] else [.run (ps.flatMap Piece.source)] := by
  induction ps with
  | nil => rfl
  | cons p ps ih =>
    rw [List.all_cons, Bool.and_eq_true] at h
    rw [parts_cons_of_isPlain h.1, ih h.2, if_neg (List.cons_ne_nil _ _), List.flatMap_cons]
    split
    · next hps =>
      rw [hps, List.flatMap_nil, List.append_nil]
      rfl
    · rfl

theorem printParts_of_isPlain {cs : List Char} (opened : List Opened)
    (h : (pieces 0 cs).all Piece.isPlain = true) :
    printParts opened (parts (pieces 0 cs)) = .ok (Emoji.replace cs) ∧
      (parts (pieces 0 cs)).any lacksPart = false := by
  have hsource : (pieces 0 cs).flatMap Piece.source = cs := source_pieces 0 cs
  rw [parts_of_isPlain h, hsource]
  split
  · next hnil =>
    rw [hnil] at hsource
    rw [← hsource, List.flatMap_nil, Emoji.replace_nil]
    exact ⟨rfl, rfl⟩
  · refine ⟨?_, rfl⟩
    show Except.ok (Emoji.replace cs ++ []) = _
    rw [List.append_nil]

theorem noTag_cons (c : Char) (cs : List Char) :
    (∀ s, s <:+ c :: cs → tagAt? s = none) ↔
      tagAt? (c :: cs) = none ∧ ∀ s, s <:+ cs → tagAt? s = none := by
  simp only [List.suffix_cons_iff, or_imp, forall_and, forall_eq]

theorem slash_infix_cons (c : Char) (cs : List Char) :
    ['\\', '['] <:+: c :: cs ↔ (c = '\\' ∧ cs.head? = some '[') ∨ ['\\', '['] <:+: cs := by
  have hhead : ['['] <+: cs ↔ cs.head? = some '[' := by
    cases cs with
    | nil => simp
    | cons d cs => simp [eq_comm]
  rw [List.infix_cons_iff, List.cons_prefix_cons, hhead, eq_comm]

/-- the pieces of a text print as they are where it holds no tag, and no backslash in front of an
opening bracket -/
theorem all_isPlain_iff (n : Nat) (cs : List Char) :
    (pieces n cs).all Piece.isPlain = true ↔
      (∀ s, s <:+ cs → tagAt? s = none) ∧ ¬ ['\\', '['] <:+: cs ∧
        (n = 0 ∨ cs.head? ≠ some '[') := by
  fun_induction pieces n cs with
  | case1 => simp [tagAt?]
  | case2 n hn => simp [tagAt?, Piece.isPlain]
  | case3 n rest ih =>
    rw [ih, noTag_cons, slash_infix_cons, tagAt?_of_ne (by decide)]
    grind
  | case4 n c rest hslash body more htag ih =>
    rw [noTag_cons, htag]
    simp [Piece.isPlain]
  | case5 n c rest hslash hnone ih =>
    rw [List.all_cons, Bool.and_eq_true, ih, noTag_cons, slash_infix_cons, hnone]
    simp only [Piece.isPlain, Bool.or_eq_true, decide_eq_true_eq]
    grind

end Markup

/-! ## texts -/

open Markup

/-- a text that prints as it is -/
structure Verbatim (cs : List Char) : Prop where
  /-- no tag starts anywhere -/
  noTag : ∀ s, s <:+ cs → tagAt? s = none
  /-- a backslash in front of an opening bracket would go -/
  noSlash : ¬ ['\\', '['] <:+: cs
  /-- no emoji is called -/
  noEmoji : Emoji.replace cs = cs
  /-- no tab, and nothing that the console leaves out -/
  noControl : ∀ c ∈ cs, c ≠ '\t' ∧ isDropped c = false

/-- a text without marks and control characters prints as it is -/
theorem Verbatim.of_plain {cs : List Char}
    (h : ∀ c ∈ cs, isMark c = false ∧ c ≠ '\t' ∧ isDropped c = false) : Verbatim cs := by
  have hne {c : Char} (hc : isMark c = true) : c ∉ cs := fun hmem => by
    rw [(h c hmem).1] at hc
    cases hc
  constructor
  case noTag =>
    intro s hs
    cases s with
    | nil => rfl
    | cons c s =>
      refine tagAt?_of_ne ?_
      rintro rfl
      exact hne (by decide) (hs.subset (List.mem_cons_self ..))
  case noSlash =>
    exact fun h => hne (by decide) (h.subset (List.mem_cons_self ..))
  case noEmoji =>
    have hreplace := Emoji.replace_append_of_not_mem (hne (by decide)) []
    rwa [List.append_nil, Emoji.replace_nil, List.append_nil] at hreplace
  case noControl => exact fun c hc => (h c hc).2

/-- what the console makes of printed characters: some are left out, and tabs become blanks -/
def settled (cs : List Char) : List Char := expandTabs (cs.filter fun c => !isDropped c)

theorem settled_of_noControl {cs : List Char} (h : ∀ c ∈ cs, c ≠ '\t' ∧ isDropped c = false) :
    settled cs = cs := by
  have hfilter : cs.filter (fun c => !isDropped c) = cs :=
    List.filter_eq_self.mpr fun c hc => by rw [(h c hc).2]; rfl
  unfold settled
  rw [hfilter]
  exact expandTabs_of_not_mem fun hmem => (h _ hmem).1 rfl

theorem noControl_settled (cs : List Char) : ∀ c ∈ settled cs, c ≠ '\t' ∧ isDropped c = false := by
  have hcount : (settled cs).countP isDropped = 0 := by
    unfold settled
    rw [countP_expandTabs (by decide) (by decide)]
    exact List.countP_eq_zero.mpr fun c hc hdropped => by
      have hkept := (List.mem_filter.mp hc).2
      rw [hdropped] at hkept
      cases hkept
  intro c hc
  refine ⟨?_, ?_⟩
  · rintro rfl
    exact not_mem_expandTabs _ hc
  · exact (Bool.not_eq_true _).mp (List.countP_eq_zero.mp hcount c hc)

/-- no mark is left out -/
theorem countP_settled (cs : List Char) : (settled cs).countP isMark = cs.countP isMark := by
  unfold settled
  rw [countP_expandTabs (by decide) (by decide), List.countP_filter]
  refine List.countP_congr fun c _ => ?_
  rw [Bool.and_eq_true]
  refine ⟨fun h => h.1, fun h => ⟨h, ?_⟩⟩
  simp only [isMark, isMarkCode, Bool.or_eq_true, decide_eq_true_eq] at h
  simp only [isDropped, Bool.not_eq_true', Bool.or_eq_false_iff, decide_eq_false_iff_not]
  omega

section
variable {cs : List Char} {opened : List Opened}

/-- a text that prints as it is comes through markup as it is -/
theorem Verbatim.printParts (opened : List Opened) (h : Verbatim cs) :
    printParts opened (parts (pieces 0 cs)) = .ok cs ∧
      (parts (pieces 0 cs)).any lacksPart = false := by
  have hplain := printParts_of_isPlain opened
    ((all_isPlain_iff 0 cs).mpr ⟨h.noTag, h.noSlash, .inl rfl⟩)
  rwa [h.noEmoji] at hplain

/-- markup brings no new marks into a text -/
theorem countP_printed_le {out : List Char}
    (h : Markup.printParts opened (parts (pieces 0 cs)) = .ok out) :
    out.countP isMark ≤ cs.countP isMark := by
  have hparts := countP_printParts_le h
  have hshown := countP_flatMap_le countP_shown_le (pieces 0 cs)
  have hsource : (pieces 0 cs).flatMap Piece.source = cs := source_pieces 0 cs
  rw [text_parts] at hparts
  rw [hsource] at hshown
  omega

/-- and a text that keeps its marks prints as it is, but for control characters -/
theorem Verbatim.of_countP {out : List Char}
    (h : Markup.printParts opened (parts (pieces 0 cs)) = .ok out)
    (hcount : out.countP isMark = cs.countP isMark)
    (hcontrol : ∀ c ∈ cs, c ≠ '\t' ∧ isDropped c = false) : Verbatim cs := by
  have hparts := countP_printParts_le h
  have hsource : (pieces 0 cs).flatMap Piece.source = cs := source_pieces 0 cs
  rw [text_parts] at hparts
  have hplain : (pieces 0 cs).all Piece.isPlain = true :=
    all_isPlain_of_countP (by rw [hsource]; omega)
  obtain ⟨hnoTag, hnoSlash, -⟩ := (all_isPlain_iff 0 cs).mp hplain
  have hout : Emoji.replace cs = out := by
    have hprinted := (printParts_of_isPlain opened hplain).1
    rw [h] at hprinted
    cases hprinted
    rfl
  exact ⟨hnoTag, hnoSlash, Emoji.replace_eq_of_countP (hout ▸ hcount), hcontrol⟩

end

end DdlToJava.Console
