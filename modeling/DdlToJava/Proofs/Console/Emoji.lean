import DdlToJava.Console.Emoji
import DdlToJava.Proofs.Text.Capital

/-!
# Texts that call no emoji

No emoji holds a bracket, a backslash or a colon, and every call that is answered takes two colons
away.  So putting emoji in the place of their names never adds one of these marks, and it leaves a
text as it is where it takes none away.

* `replace_append_of_not_mem`  text without colons stays;
* `called?_marks`              no emoji holds a mark;
* `countP_flatMap_le`, `countP_le_of_flatMap`
                               counts in texts that are put together;
* `countP_replace_le`, `replace_eq_of_countP`
                               the marks of a text before and after.
-/

namespace DdlToJava.Console

/-- is this the code point of an opening bracket, a backslash or a colon? -/
def isMarkCode (n : Nat) : Bool := n = 91 || n = 92 || n = 58

/-- is the character an opening bracket, a backslash or a colon? -/
def isMark (c : Char) : Bool := isMarkCode c.toNat

/-! ## counting -/

section
variable {α : Type} {p : Char → Bool} {f g : α → List Char}
  (hle : ∀ a, (f a).countP p ≤ (g a).countP p)
include hle

theorem countP_flatMap_le (l : List α) : (l.flatMap f).countP p ≤ (l.flatMap g).countP p := by
  induction l with
  | nil => exact Nat.le_refl 0
  | cons a l ih =>
    have := hle a
    rw [List.flatMap_cons, List.flatMap_cons, List.countP_append, List.countP_append]
    omega

/-- where nothing is lost in all, nothing is lost anywhere -/
theorem countP_le_of_flatMap {l : List α}
    (h : (l.flatMap g).countP p ≤ (l.flatMap f).countP p) :
    ∀ a ∈ l, (g a).countP p ≤ (f a).countP p := by
  induction l with
  | nil => nofun
  | cons a l ih =>
    have hfirst := hle a
    have hrest := countP_flatMap_le hle l
    rw [List.flatMap_cons, List.flatMap_cons, List.countP_append, List.countP_append] at h
    rw [List.forall_mem_cons]
    exact ⟨by omega, ih (by omega)⟩

end

namespace Emoji

/-! ## calls -/

theorem call?_of_ne {c : Char} (h : c ≠ ':') (cs : List Char) : call? (c :: cs) = none := by
  unfold call?
  split
  · next heq =>
    cases heq
    exact absurd rfl h
  · rfl

theorem call?_eq_some {cs name rest : List Char} (h : call? cs = some (name, rest)) :
    cs = ':' :: (name ++ ':' :: rest) := by
  unfold call? at h
  split at h
  · next cs =>
    split at h
    · next more hmore =>
      cases h
      rw [← hmore, List.takeWhile_append_dropWhile]
    · cases h
  · cases h

theorem replace_cons {c : Char} {cs : List Char} (h : call? (c :: cs) = none) :
    replace (c :: cs) = c :: replace cs := by
  rw [replace]
  split
  · next name rest hsome =>
    rw [h] at hsome
    cases hsome
  · rfl

/-- a text without colons stays, whatever follows it -/
theorem replace_append_of_not_mem {cs : List Char} (h : ':' ∉ cs) (more : List Char) :
    replace (cs ++ more) = cs ++ replace more := by
  induction cs with
  | nil => rfl
  | cons c cs ih =>
    rw [List.mem_cons, not_or] at h
    rw [List.cons_append, replace_cons (call?_of_ne (Ne.symm h.1) _), ih h.2, List.cons_append]

/-! ## marks -/

theorem emojiTable_marks : (emojiTable.all fun e => e.2.all fun n => !isMarkCode n) = true := by
  decide +kernel

theorem not_isMark_ofNat {n : Nat} (h : isMarkCode n = false) : isMark (Char.ofNat n) = false := by
  unfold isMark
  rcases Text.toNat_ofNat n with heq | heq
  · rw [heq]
    exact h
  · rw [heq]
    rfl

/-- no emoji holds a mark -/
theorem named?_marks {name emoji : List Char} (h : named? name = some emoji) :
    emoji.countP isMark = 0 := by
  obtain ⟨codes, hcodes, rfl⟩ := Option.map_eq_some_iff.mp h
  obtain ⟨before, after, htable, -⟩ := List.lookup_eq_some_iff.mp hcodes
  have hmem : (String.ofList name, codes) ∈ emojiTable := by
    rw [htable]
    exact List.mem_append_right _ (List.mem_cons_self ..)
  have hall := List.all_eq_true.mp (List.all_eq_true.mp emojiTable_marks _ hmem)
  refine List.countP_eq_zero.mpr fun c hc => ?_
  obtain ⟨n, hn, rfl⟩ := List.mem_map.mp hc
  rw [not_isMark_ofNat ((Bool.not_eq_true' _).mp (hall n hn))]
  exact Bool.false_ne_true

theorem splitVariant_marks (name : List Char) : (splitVariant name).2.countP isMark = 0 := by
  unfold splitVariant
  split
  · next ending selector hfind =>
    have hmem := List.mem_of_find?_eq_some hfind
    have hall : ∀ v ∈ variants, [v.2].countP isMark = 0 := by decide
    exact hall _ hmem
  · rfl

theorem called?_marks {name emoji : List Char} (h : called? name = some emoji) :
    emoji.countP isMark = 0 := by
  obtain ⟨picture, hpicture, rfl⟩ := Option.map_eq_some_iff.mp h
  rw [List.countP_append, named?_marks hpicture, Nat.zero_add]
  exact splitVariant_marks name

/-- a call holds two colons -/
theorem countP_call (name rest : List Char) :
    rest.countP isMark + 2 ≤ (':' :: (name ++ ':' :: rest)).countP isMark := by
  have hcolon : isMark ':' = true := by decide
  rw [List.countP_cons_of_pos hcolon, List.countP_append, List.countP_cons_of_pos hcolon]
  omega

/-- a call that is not answered stays as it is written -/
theorem getD_none_append (name rest : List Char) :
    (none : Option (List Char)).getD (':' :: name ++ [':']) ++ rest =
      ':' :: (name ++ ':' :: rest) := by
  rw [Option.getD_none, List.cons_append, List.cons_append, List.append_assoc]
  rfl

/-- emoji in the place of their names bring no new marks -/
theorem countP_replace_le (cs : List Char) :
    (replace cs).countP isMark ≤ cs.countP isMark := by
  fun_induction replace cs with
  | case1 => exact Nat.le_refl 0
  | case2 c tail name rest hcall ih =>
    rw [call?_eq_some hcall]
    cases hcalled : called? name with
    | none =>
      rw [getD_none_append]
      simp only [List.countP_cons, List.countP_append]
      omega
    | some emoji =>
      have := countP_call name rest
      rw [Option.getD_some, List.countP_append, called?_marks hcalled]
      omega
  | case3 c tail hcall ih =>
    rw [List.countP_cons, List.countP_cons]
    omega

/-- and where they take none away, there are none -/
theorem replace_eq_of_countP {cs : List Char}
    (h : (replace cs).countP isMark = cs.countP isMark) : replace cs = cs := by
  fun_induction replace cs with
  | case1 => rfl
  | case2 c tail name rest hcall ih =>
    rw [call?_eq_some hcall] at h ⊢
    cases hcalled : called? name with
    | none =>
      rw [hcalled, getD_none_append] at h
      simp only [List.countP_cons, List.countP_append] at h
      rw [getD_none_append, ih (by omega)]
    | some emoji =>
      have hcall := countP_call name rest
      have hrest := countP_replace_le rest
      rw [hcalled, Option.getD_some, List.countP_append, called?_marks hcalled] at h
      omega
  | case3 c tail hcall ih =>
    rw [List.countP_cons, List.countP_cons] at h
    rw [ih (by omega)]

end Emoji

end DdlToJava.Console
