import DdlToJava.Text.Lines
import DdlToJava.Proofs.Text.Joined
import Mathlib.Data.List.Basic

/-!
# Rows

A written text is a list of rows, each with a line feed behind it.  As long as no row has a line
feed of its own, nothing is lost: two texts that are equal have equal rows, and the rows can be
cut out of the text again.

* `ofLines_row_inj`  the first rows of two equal texts, also behind a common front that may have
                     line feeds;
* `rows_ofLines`     the rows of a written text;
* `ofLines_eq_cut`   where a written text can be cut at rows.
-/

namespace DdlToJava.Text

/-- there is no line feed in the text -/
def OneLine (s : String) : Prop := '\n' ∉ s.toList

instance (s : String) : Decidable (OneLine s) := inferInstanceAs (Decidable ('\n' ∉ s.toList))

theorem OneLine.append {a b : String} (ha : OneLine a) (hb : OneLine b) : OneLine (a ++ b) := by
  unfold OneLine
  rw [String.toList_append, List.mem_append]
  rintro (h | h)
  · exact ha h
  · exact hb h

/-- a mark that is no digit is in no numeral -/
theorem not_mem_natRepr {k : Char} (hk : k.isDigit = false) (n : Nat) :
    k ∉ (toString n).toList := by
  rw [show (toString n).toList = Nat.toDigits 10 n from Nat.toList_repr]
  intro h
  rw [Nat.isDigit_of_mem_toDigits (by decide) (by decide) h] at hk
  cases hk

theorem getLast?_append (a : String) {b : String} {k : Char} (h : b.toList.getLast? = some k) :
    (a ++ b).toList.getLast? = some k := by
  rw [String.toList_append, List.getLast?_append, h]
  rfl

theorem getLast?_append_ne (a : String) {b : String} {k : Char} (hb : b.toList ≠ [])
    (h : b.toList.getLast? ≠ some k) : (a ++ b).toList.getLast? ≠ some k := by
  rw [String.toList_append, List.getLast?_append_of_ne_nil _ hb]
  exact h

/-- what stands in front of the first separator, and what stands behind it -/
theorem append_sep_inj {sep : Char} {a b x y : List Char} (ha : sep ∉ a) (hb : sep ∉ b) :
    a ++ sep :: x = b ++ sep :: y ↔ a = b ∧ x = y := by
  constructor
  · intro h
    have hpieces : pieces sep (a ++ sep :: x) = pieces sep (b ++ sep :: y) := by rw [h]
    rw [pieces_append_sep ha, pieces_append_sep hb] at hpieces
    injection hpieces with hab
    rw [hab] at h
    exact ⟨hab, List.cons_inj_right _ |>.mp (List.append_cancel_left h)⟩
  · rintro ⟨rfl, rfl⟩
    rfl

/-- what stands in front of the last separator, and what stands behind it -/
theorem append_last_sep_inj {sep : Char} {a b x y : List Char} (hx : sep ∉ x) (hy : sep ∉ y) :
    a ++ sep :: x = b ++ sep :: y ↔ a = b ∧ x = y := by
  rw [← List.reverse_inj, List.reverse_append, List.reverse_append, List.reverse_cons,
    List.reverse_cons, List.append_assoc, List.append_assoc]
  show x.reverse ++ sep :: a.reverse = y.reverse ++ sep :: b.reverse ↔ _
  rw [append_sep_inj (fun h => hx (List.mem_reverse.mp h)) (fun h => hy (List.mem_reverse.mp h)),
    List.reverse_inj, List.reverse_inj]
  exact and_comm

section
variable {front l l' : String} {ls ls' : List String}

theorem toList_ofLines_cons (l : String) (ls : List String) :
    (ofLines (l :: ls)).toList = l.toList ++ '\n' :: (ofLines ls).toList := by
  unfold ofLines
  rw [List.map_cons, String.join_cons, String.toList_append, String.toList_append,
    List.append_assoc]
  rfl

/-! ## equal texts -/

/-- a common row in front -/
theorem ofLines_cons_inj : ofLines (l :: ls) = ofLines (l :: ls') ↔ ofLines ls = ofLines ls' := by
  rw [← String.toList_inj, ← String.toList_inj, toList_ofLines_cons, toList_ofLines_cons,
    List.append_cancel_left_eq, List.cons_inj_right]

/-- rows behind a common front are equal if neither has a line feed; the front may have some -/
theorem ofLines_row_inj (hl : OneLine l) (hl' : OneLine l') :
    ofLines ((front ++ l) :: ls) = ofLines ((front ++ l') :: ls') ↔
      l = l' ∧ ofLines ls = ofLines ls' := by
  rw [← String.toList_inj, ← @String.toList_inj l, ← @String.toList_inj (ofLines ls),
    toList_ofLines_cons, toList_ofLines_cons, String.toList_append, String.toList_append,
    List.append_assoc, List.append_assoc, List.append_cancel_left_eq,
    append_sep_inj hl hl']

theorem ofLines_bare_inj (hl : OneLine l) (hl' : OneLine l') :
    ofLines (l :: ls) = ofLines (l' :: ls') ↔ l = l' ∧ ofLines ls = ofLines ls' := by
  have h : ofLines (("" ++ l) :: ls) = ofLines (("" ++ l') :: ls') ↔
      l = l' ∧ ofLines ls = ofLines ls' := ofLines_row_inj hl hl'
  rwa [String.empty_append, String.empty_append] at h

/-! ## reading rows -/

/-- the rows of a text, without their line feeds; what stands behind the last line feed is none -/
def rows (text : String) : List String := (pieces '\n' text.toList).dropLast.map String.ofList

/-- the rows of a written text are those that were written -/
theorem rows_ofLines (h : ∀ l ∈ ls, OneLine l) : rows (ofLines ls) = ls := by
  unfold rows
  have hpieces : pieces '\n' (ofLines ls).toList = ls.map String.toList ++ [[]] := by
    induction ls with
    | nil => rfl
    | cons l ls ih =>
      rw [toList_ofLines_cons, pieces_append_sep (h l (List.mem_cons_self ..)),
        ih fun m hm => h m (List.mem_cons_of_mem _ hm)]
      rfl
  rw [hpieces, List.dropLast_concat, List.map_map]
  have hid : (String.ofList ∘ String.toList) = id := by
    funext s
    exact String.ofList_toList
  rw [hid, List.map_id]

/-! ## cutting a text at rows -/

theorem ofLines_append (a b : List String) : ofLines (a ++ b) = ofLines a ++ ofLines b := by
  unfold ofLines
  rw [List.map_append, String.join_append]

/-- a text that begins with written rows has them for its first rows -/
theorem ofLines_eq_append {mid : List String} {back : List Char} (h : ∀ l ∈ ls, OneLine l)
    (hmid : ∀ l ∈ mid, OneLine l) (htext : (ofLines ls).toList = (ofLines mid).toList ++ back) :
    ∃ below, ls = mid ++ below ∧ back = (ofLines below).toList := by
  induction mid generalizing ls with
  | nil => exact ⟨ls, rfl, htext.symm⟩
  | cons m mid ih =>
    rw [toList_ofLines_cons, List.append_assoc, List.cons_append] at htext
    cases ls with
    | nil =>
      have hfeed : '\n' ∈ (ofLines []).toList := by
        rw [htext]
        exact List.mem_append_right _ (List.mem_cons_self ..)
      cases hfeed
    | cons l ls =>
      rw [toList_ofLines_cons, append_sep_inj (h l (List.mem_cons_self ..))
        (hmid m (List.mem_cons_self ..)), String.toList_inj] at htext
      obtain ⟨below, hls, hback⟩ := ih (fun k hk => h k (List.mem_cons_of_mem l hk))
        (fun k hk => hmid k (List.mem_cons_of_mem m hk)) htext.2
      exact ⟨below, by rw [htext.1, hls, List.cons_append], hback⟩

/-- a line feed of a text ends a row -/
theorem ofLines_eq_feed {front back : List Char} (h : ∀ l ∈ ls, OneLine l)
    (htext : (ofLines ls).toList = front ++ '\n' :: back) :
    ∃ above l below, ls = above ++ l :: below ∧ front = (ofLines above).toList ++ l.toList ∧
      back = (ofLines below).toList := by
  induction ls generalizing front with
  | nil => exact absurd htext.symm (List.append_ne_nil_of_right_ne_nil _ (List.cons_ne_nil _ _))
  | cons l ls ih =>
    have hl : '\n' ∉ l.toList := h l (List.mem_cons_self ..)
    rw [toList_ofLines_cons] at htext
    rcases List.append_eq_append_iff.mp htext with ⟨x, rfl, hrest⟩ | ⟨x, hx, hrest⟩
    · cases x with
      | nil =>
        injection hrest with _ hback
        exact ⟨[], l, ls, rfl, List.append_nil _, hback.symm⟩
      | cons c x =>
        injection hrest with hc hrest
        obtain ⟨above, m, below, rfl, rfl, hback⟩ :=
          ih (fun k hk => h k (List.mem_cons_of_mem l hk)) hrest
        refine ⟨l :: above, m, below, rfl, ?_, hback⟩
        rw [toList_ofLines_cons, ← hc, List.append_assoc, List.cons_append]
    · cases x with
      | nil =>
        injection hrest with _ hback
        rw [List.append_nil] at hx
        exact ⟨[], l, ls, rfl, hx.symm, hback⟩
      | cons c x =>
        injection hrest with hc _
        rw [hx, ← hc] at hl
        exact absurd (List.mem_append_right _ (List.mem_cons_self ..)) hl

/-- A text is cut at a line feed and the rows `mid` behind it exactly where rows of the text are
`mid`: what stands in front ends in the row above them. -/
theorem ofLines_eq_cut {mid : List String} {front back : String} (h : ∀ l ∈ ls, OneLine l)
    (hmid : ∀ l ∈ mid, OneLine l) (htext : ofLines ls = front ++ ("\n" ++ ofLines mid) ++ back) :
    ∃ above l below, ls = above ++ l :: (mid ++ below) ∧ front = ofLines above ++ l ∧
      back = ofLines below := by
  have hchars : (ofLines ls).toList =
      front.toList ++ '\n' :: ((ofLines mid).toList ++ back.toList) := by
    rw [htext, String.toList_append, String.toList_append, String.toList_append, List.append_assoc]
    rfl
  obtain ⟨above, l, under, rfl, hfront, hunder⟩ := ofLines_eq_feed h hchars
  have hbelow : ∀ k ∈ under, OneLine k := fun k hk =>
    h k (List.mem_append_right above (List.mem_cons_of_mem l hk))
  obtain ⟨below, rfl, hback⟩ := ofLines_eq_append hbelow hmid hunder.symm
  refine ⟨above, l, below, rfl, ?_, String.toList_inj.mp hback⟩
  rw [← String.toList_inj, hfront, String.toList_append]

end

end DdlToJava.Text
