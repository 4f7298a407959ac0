import DdlToJava.Proofs.Text.Joined
import DdlToJava.Proofs.Text.Squeeze

/-!
# Filled lines

A line is filled when something stands on it.  `tidyLines` gives the filled lines of a text,
trimmed; blank lines, blanks at the ends of a line and the kind of its break do not show in it.

* `line_induction`     a text is a line, or a line, a break and a shorter text;
* `tidyLines_append`   the filled lines are those of the line and those of the shorter text;
* `tidyLines_rows`     they are the same for all breaks and all blanks between the lines;
* `squeeze_tidyLines`  they hold the text but for its blanks.
-/

namespace DdlToJava.Text

/-! ## filled lines -/

/-- the lines with something on them, trimmed -/
def filled (ls : List (List Char)) : List (List Char) := (ls.map trim).filter (· ≠ [])

/-- the filled lines of a text -/
def tidyLines (cs : List Char) : List (List Char) := filled (lines cs)

theorem filled_append (a b : List (List Char)) : filled (a ++ b) = filled a ++ filled b := by
  unfold filled
  rw [List.map_append, List.filter_append]

theorem filled_cons (l : List Char) (ls : List (List Char)) :
    filled (l :: ls) = filled [l] ++ filled ls := filled_append [l] ls

theorem filled_nil_cons (ls : List (List Char)) : filled ([] :: ls) = filled ls := rfl

theorem filled_of_blank {l : List Char} (h : trim l = []) : filled [l] = [] := by
  simp [filled, h]

theorem filled_of_ne {l : List Char} (h : trim l ≠ []) : filled [l] = [trim l] := by
  simp [filled, h]

theorem filled_congr {l m : List Char} (h : trim l = trim m) : filled [l] = filled [m] := by
  unfold filled
  rw [List.map_singleton, List.map_singleton, h]

theorem lines_append_break {l : List Char} (hl : NoBreak l) {c : Char} (hc : isLineBreak c = true)
    (cs : List Char) : lines (l ++ c :: cs) = l :: lines cs ∨
      ∃ r, cs = '\n' :: r ∧ lines (l ++ c :: cs) = l :: lines r := by
  induction l with
  | nil =>
    by_cases h : c = '\r' ∧ ∃ r, cs = '\n' :: r
    · obtain ⟨rfl, r, rfl⟩ := h
      exact Or.inr ⟨r, rfl, lines_crlf r⟩
    · left
      show lines (c :: cs) = [] :: lines cs
      rw [lines.eq_3 c cs fun r hr he => h ⟨hr, r, he⟩, if_pos hc]
  | cons d l ih =>
    have hd := hl d (List.mem_cons_self ..)
    have hcat : d :: l ++ c :: cs = d :: (l ++ c :: cs) := rfl
    rw [hcat, lines_cons_of_not hd]
    rcases ih fun e he => hl e (List.mem_cons_of_mem d he) with h | ⟨r, hr, h⟩
    · exact Or.inl (by rw [h]; rfl)
    · exact Or.inr ⟨r, hr, by rw [h]; rfl⟩

/-- a text is a line, or a line, a break and a shorter text -/
theorem line_induction {P : List Char → Prop} (line : ∀ l, NoBreak l → P l)
    (step : ∀ l c cs, NoBreak l → isLineBreak c = true → P cs → P (l ++ c :: cs)) (cs : List Char) :
    P cs := by
  induction hn : cs.length using Nat.strong_induction_on generalizing cs with
  | _ n ih =>
    obtain ⟨l, r, rfl, hl, hr⟩ : ∃ l r, cs = l ++ r ∧ NoBreak l ∧
        ∀ c, r.head? = some c → isLineBreak c = true := by
      refine ⟨cs.takeWhile fun c => !isLineBreak c, cs.dropWhile fun c => !isLineBreak c,
        List.takeWhile_append_dropWhile.symm, fun c hc => ?_, fun c hc => ?_⟩
      · simpa using List.mem_takeWhile_imp hc
      · have h := List.head?_dropWhile_not (fun c => !isLineBreak c) cs
        rw [hc] at h
        simpa using h
    cases r with
    | nil =>
      rw [List.append_nil]
      exact line l hl
    | cons c r =>
      have hlt : r.length < n := by
        rw [← hn, List.length_append, List.length_cons]
        omega
      exact step l c r hl (hr c rfl) (ih r.length hlt r rfl)

/-- the filled lines of a text, changed line by line -/
theorem filled_map_lines_append {f : List Char → List Char} (hf : f [] = []) {l : List Char}
    (hl : NoBreak l) {c : Char} (hc : isLineBreak c = true) (cs : List Char) :
    filled ((lines (l ++ c :: cs)).map f) = filled [f l] ++ filled ((lines cs).map f) := by
  rcases lines_append_break hl hc cs with h | ⟨r, rfl, h⟩
  · rw [h, List.map_cons, filled_cons]
  · have hr : lines ('\n' :: r) = [] :: lines r := lines_append_newline (l := []) (by decide) r
    rw [h, hr, List.map_cons, List.map_cons, hf, filled_nil_cons, filled_cons]

theorem filled_map_lines {f : List Char → List Char} (hf : f [] = []) {l : List Char}
    (hl : NoBreak l) : filled ((lines l).map f) = filled [f l] := by
  by_cases h : l = []
  · rw [h, lines_nil, hf]
    rfl
  · rw [lines_of_noBreak hl h, List.map_singleton]

theorem tidyLines_of_noBreak {l : List Char} (hl : NoBreak l) : tidyLines l = filled [l] := by
  have h := filled_map_lines (f := id) rfl hl
  rwa [List.map_id] at h

theorem tidyLines_append {l : List Char} (hl : NoBreak l) {c : Char} (hc : isLineBreak c = true)
    (cs : List Char) : tidyLines (l ++ c :: cs) = filled [l] ++ tidyLines cs := by
  have h := filled_map_lines_append (f := id) rfl hl hc cs
  rwa [List.map_id, List.map_id] at h

theorem tidyLines_append_newline (a b : List Char) :
    tidyLines (a ++ '\n' :: b) = tidyLines a ++ tidyLines b := by
  induction a using line_induction with
  | line l hl => rw [tidyLines_append hl (by decide), tidyLines_of_noBreak hl]
  | step l c cs hl hc ih =>
    have hcat : (l ++ c :: cs) ++ '\n' :: b = l ++ c :: (cs ++ '\n' :: b) := List.append_assoc ..
    rw [hcat, tidyLines_append hl hc, tidyLines_append hl hc, ih, List.append_assoc]

theorem tidyLines_joined {ls : List (List Char)} (h : ∀ l ∈ ls, NoBreak l) :
    tidyLines (joined ls) = filled ls := by
  unfold tidyLines
  rcases lines_joined h with h | h
  · rw [h]
  · have hlast := congrArg filled h
    rw [filled_append] at hlast
    rw [hlast]
    exact (List.append_nil _).symm

/-! ## rows -/

/-- the lines may be trimmed before they are changed -/
theorem filled_map_filled {f : List Char → List Char} (hf : f [] = [])
    (htrim : ∀ l, trim (f (trim l)) = trim (f l)) (ls : List (List Char)) :
    filled ((filled ls).map f) = filled (ls.map f) := by
  induction ls with
  | nil => rfl
  | cons l ls ih =>
    have hl : filled ((filled [l]).map f) = filled [f l] := by
      by_cases h : trim l = []
      · have hnil : trim (f l) = trim [] := by rw [← htrim, h, hf]
        rw [filled_of_blank h, filled_congr hnil]
        rfl
      · rw [filled_of_ne h, List.map_singleton, filled_congr (htrim l)]
    rw [filled_cons l ls, List.map_append, filled_append, ih, hl, List.map_cons,
      filled_cons (f l) (ls.map f)]

/-- blanks in front of a text fill no line -/
theorem tidyLines_blanks_append {ws : List Char} (h : ∀ c ∈ ws, isSpace c = true)
    (cs : List Char) : tidyLines (ws ++ cs) = tidyLines cs := by
  induction ws with
  | nil => rfl
  | cons w ws ih =>
    have hw := h w (List.mem_cons_self ..)
    have ih := ih fun c hc => h c (List.mem_cons_of_mem w hc)
    rw [List.cons_append, ← ih]
    cases hb : isLineBreak w with
    | true => exact tidyLines_append (l := []) (by decide) hb _
    | false =>
      have htrim : ∀ l, trim (w :: l) = trim l := fun l => by
        unfold trim
        rw [trimStart_cons, if_pos hw]
      have hcons : ∀ l, NoBreak l → NoBreak (w :: l) := fun l hl c hc => by
        rcases List.mem_cons.mp hc with rfl | hc
        · exact hb
        · exact hl c hc
      generalize ws ++ cs = x
      induction x using line_induction with
      | line l hl =>
        rw [tidyLines_of_noBreak (hcons l hl), tidyLines_of_noBreak hl, filled_congr (htrim l)]
      | step l c x hl hc _ =>
        rw [← List.cons_append, tidyLines_append (hcons l hl) hc, tidyLines_append hl hc,
          filled_congr (htrim l)]

/-- what stands behind a line: blanks, with a break among them -/
structure Gap (g : List Char) : Prop where
  blank : ∀ c ∈ g, isSpace c = true
  ends : ∃ c ∈ g, isLineBreak c = true

instance (g : List Char) : Decidable (Gap g) :=
  decidable_of_iff (g.all isSpace = true ∧ g.any isLineBreak = true)
    ⟨fun h => ⟨List.all_eq_true.mp h.1, List.any_eq_true.mp h.2⟩,
      fun h => ⟨List.all_eq_true.mpr h.blank, List.any_eq_true.mpr h.ends⟩⟩

theorem trimEnd_append_of_nil {b : List Char} (h : trimEnd b = []) (a : List Char) :
    trimEnd (a ++ b) = trimEnd a := by
  unfold trimEnd at h ⊢
  rw [dropEnd_append, if_pos h]

theorem trimEnd_blanks {ws : List Char} (h : ∀ c ∈ ws, isSpace c = true) : trimEnd ws = [] := by
  show (ws.reverse.dropWhile isSpace).reverse = []
  rw [List.reverse_eq_nil_iff, List.dropWhile_eq_nil_iff]
  exact fun c hc => h c (List.mem_reverse.mp hc)

theorem trim_append_blanks (l : List Char) {ws : List Char} (h : ∀ c ∈ ws, isSpace c = true) :
    trim (l ++ ws) = trim l := by
  unfold trim
  by_cases hl : trimStart l = []
  · rw [trimStart_append_of_nil hl, trimStart_blanks h, hl]
  · rw [trimStart_append_of_ne_nil hl, trimEnd_append_of_nil (trimEnd_blanks h)]

theorem tidyLines_gap {l g : List Char} (hl : NoBreak l) (hg : Gap g) (cs : List Char) :
    tidyLines (l ++ (g ++ cs)) = filled [l] ++ tidyLines cs := by
  induction g generalizing l with
  | nil =>
    obtain ⟨c, hc, _⟩ := hg.ends
    cases hc
  | cons c g ih =>
    have hg' : ∀ d ∈ g, isSpace d = true := fun d hd => hg.blank d (List.mem_cons_of_mem c hd)
    cases hc : isLineBreak c with
    | true =>
      rw [List.cons_append, tidyLines_append hl hc, tidyLines_blanks_append hg']
    | false =>
      -- a blank in front of the break belongs to the line
      have hl' : NoBreak (l ++ [c]) := hl.append fun d hd => by rwa [List.mem_singleton.mp hd]
      have hends : ∃ d ∈ g, isLineBreak d = true := by
        obtain ⟨d, hd, hbreak⟩ := hg.ends
        rcases List.mem_cons.mp hd with rfl | hd
        · rw [hc] at hbreak
          cases hbreak
        · exact ⟨d, hd, hbreak⟩
      have hcat : l ++ (c :: g ++ cs) = (l ++ [c]) ++ (g ++ cs) := by simp
      have htrim : trim (l ++ [c]) = trim l := by
        apply trim_append_blanks
        intro d hd
        rw [List.mem_singleton.mp hd]
        exact hg.blank c (List.mem_cons_self ..)
      rw [hcat, ih hl' ⟨hg', hends⟩, filled_congr htrim]

/-- the filled lines do not depend on the gaps -/
theorem tidyLines_rows {rows : List (List Char × List Char)} {last : List Char}
    (h : ∀ r ∈ rows, NoBreak r.1 ∧ Gap r.2) (hlast : NoBreak last) :
    tidyLines (rows.flatMap (fun r => r.1 ++ r.2) ++ last) =
      filled (rows.map (·.1) ++ [last]) := by
  induction rows with
  | nil => exact tidyLines_of_noBreak hlast
  | cons r rows ih =>
    obtain ⟨hl, hg⟩ := h r (List.mem_cons_self ..)
    rw [List.flatMap_cons, List.append_assoc, List.append_assoc, tidyLines_gap hl hg,
      ih fun s hs => h s (List.mem_cons_of_mem r hs), List.map_cons, List.cons_append,
      filled_cons r.1 (rows.map (·.1) ++ [last])]

theorem noBreak_of_mem_tidyLines (cs : List Char) : ∀ l ∈ tidyLines cs, NoBreak l := by
  have hfilled : ∀ l, NoBreak l → ∀ m ∈ filled [l], NoBreak m := by
    intro l hl m hm c hc
    have hm : m ∈ [trim l] := (List.mem_filter.mp hm).1
    rw [List.mem_singleton.mp hm] at hc
    obtain ⟨ws, hcat, _⟩ := exists_trimEnd_append_blanks (trimStart l)
    have hc' : c ∈ trimStart l := by
      rw [hcat]
      exact List.mem_append_left ws hc
    exact hl c ((trimStart_suffix l).subset hc')
  induction cs using line_induction with
  | line l hl =>
    rw [tidyLines_of_noBreak hl]
    exact hfilled l hl
  | step l c cs hl hc ih =>
    rw [tidyLines_append hl hc]
    intro m hm
    rcases List.mem_append.mp hm with hm | hm
    · exact hfilled l hl m hm
    · exact ih m hm

/-! ## the blanks of a text -/

theorem fed_append (a b : List (List Char)) : fed (a ++ b) = fed a ++ fed b :=
  List.flatMap_append

/-- a line between blanks, squeezed -/
theorem squeeze_line (l : List Char) {d : Char} (hd : isSpace d = true) (z : List Char) :
    squeeze ('\n' :: l ++ d :: z) = squeeze (fed (filled [l]) ++ d :: z) := by
  have hnewline : isSpace '\n' = true := by decide
  obtain ⟨ws, hl, hws⟩ := exists_blanks_append_trimStart l
  obtain ⟨vs, ht, hvs⟩ := exists_trimEnd_append_blanks (trimStart l)
  have hcat : '\n' :: l ++ d :: z = '\n' :: (ws ++ (trim l ++ (vs ++ d :: z))) := by
    conv => lhs; rw [hl, ht]
    simp [trim]
  have hsqueeze : squeeze ('\n' :: l ++ d :: z) = squeeze (('\n' :: trim l) ++ d :: z) := by
    rw [hcat, squeeze_blank_blanks hnewline hws]
    exact squeeze_append_congr (squeeze_blanks_blank hd hvs z) ('\n' :: trim l)
  rw [hsqueeze]
  by_cases h : trim l = []
  · have hws : ∀ e ∈ ['\n'], isSpace e = true := by decide
    rw [h, filled_of_blank h]
    exact squeeze_blanks_blank hd hws z
  · rw [filled_of_ne h]
    simp [fed]

/-- the filled lines hold the text but for its blanks -/
theorem squeeze_tidyLines (cs : List Char) :
    squeeze ('\n' :: cs ++ ['\n']) = squeeze (fed (tidyLines cs) ++ ['\n']) := by
  have hnewline : isSpace '\n' = true := by decide
  induction cs using line_induction with
  | line l hl =>
    rw [tidyLines_of_noBreak hl]
    exact squeeze_line l hnewline []
  | step l c cs hl hc ih =>
    have hcat : '\n' :: (l ++ c :: cs) ++ ['\n'] = ('\n' :: l) ++ (c :: (cs ++ ['\n'])) := by simp
    have hbreak : squeeze (c :: (cs ++ ['\n'])) = squeeze (fed (tidyLines cs) ++ ['\n']) := by
      rw [squeeze_space_congr (isSpace_of_isLineBreak c hc) hnewline]
      exact ih
    obtain ⟨z, hz⟩ : ∃ z, fed (tidyLines cs) ++ ['\n'] = '\n' :: z := by
      cases tidyLines cs with
      | nil => exact ⟨[], rfl⟩
      | cons m ms => exact ⟨_, rfl⟩
    rw [tidyLines_append hl hc, fed_append, hcat, squeeze_append_congr hbreak, List.append_assoc,
      hz]
    exact squeeze_line l hnewline z

end DdlToJava.Text
