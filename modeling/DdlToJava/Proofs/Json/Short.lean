import DdlToJava.Json.Parser
import DdlToJava.Proofs.Json.Printed
import Mathlib.Algebra.Group.Nat.Defs
import Mathlib.Data.List.Induction
import Mathlib.Data.List.TakeWhile

/-!
# Integers that were read are short

The parser refuses a number whose whole part is too long, so that every integer of a value that it
gives has a short written form.  The bound goes from the tokens to the stack and from there into
the containers.

* `ofDigitChars_lt`              so many digits write a number below that power of ten;
* `Inside`, `ShortIntegers`      what stands somewhere in a value;
* `number?_isShort`, `tokens?_short`
                                 numbers, and the tokens of a text;
* `shift_short`, `shiftAll_short`
                                 one token onto the stack, and a row of them;
* `parse?_short`                 a value that was parsed has short integers only.
-/

namespace DdlToJava.Json

open Text Token Json.Parser

/-! ## numbers -/

theorem ofDigitChars_lt {ds : List Char} (h : ∀ c ∈ ds, c.isDigit = true) :
    Nat.ofDigitChars 10 ds 0 < 10 ^ ds.length := by
  induction ds using List.reverseRecOn with
  | nil => decide
  | append_singleton ds c ih =>
    have hds := ih fun d hd => h d (List.mem_append_left _ hd)
    have hc : c.toNat - '0'.toNat ≤ 9 := by
      have hdigit := h c (List.mem_append_right _ (List.mem_singleton_self c))
      rw [Char.isDigit_iff_toNat] at hdigit
      have hle : c.toNat ≤ 57 := hdigit.2
      show c.toNat - 48 ≤ 9
      omega
    rw [Nat.ofDigitChars_append, Nat.ofDigitChars_cons, Nat.ofDigitChars_nil, List.length_append,
      List.length_singleton, Nat.pow_succ]
    omega

/-- a number of so many digits is short -/
theorem isShort_of_lt {n : Int} {k : Nat} (hk : 0 < k) (hn : n.natAbs < 10 ^ k)
    (hle : (minus (n < 0)).length + k ≤ wholeLimit) : IsShort n := by
  unfold IsShort
  rw [integer_eq, List.length_append]
  have := (Nat.length_toDigits_le_iff (by decide) hk).mpr hn
  omega

/-- a number of a machine word is short -/
theorem isShort_of_natAbs_le {n : Int} (h : n.natAbs ≤ 2 ^ 63) : IsShort n := by
  refine isShort_of_lt (k := 19) (by decide) (Nat.lt_of_le_of_lt h (by decide)) ?_
  unfold minus
  split <;> decide

theorem number?_isShort {cs rest : List Char} {n : Int}
    (h : number? cs = some (.int n, rest)) : IsShort n := by
  unfold number? at h
  generalize sign cs = signed at h
  obtain ⟨negative, digits⟩ := signed
  simp only [Option.bind_eq_bind, Option.bind_eq_some_iff, Prod.exists] at h
  obtain ⟨whole, cs', hwhole, h⟩ := h
  obtain ⟨hrun, -, hne⟩ := run?_eq_some _ hwhole
  have hdigits : ∀ c ∈ whole, c.isDigit = true := fun c hc => by
    rw [hrun] at hc
    exact List.mem_takeWhile_imp hc
  split at h
  · cases h
  · next hlimit =>
    simp only [Option.bind_eq_some_iff, Prod.exists] at h
    obtain ⟨places, cs'', -, e, r, -, h⟩ := h
    split at h
    · next hint =>
      cases h
      obtain ⟨rfl, -⟩ := hint
      rw [List.append_nil]
      have hlt := ofDigitChars_lt hdigits
      have hlen : whole.length + (if negative then 1 else 0) ≤ wholeLimit := by
        rw [not_or] at hlimit
        simpa [isOverlong] using hlimit.2
      refine isShort_of_lt (List.length_pos_iff.mpr hne) ?_ ?_
      · cases negative <;> simpa using hlt
      · unfold minus
        cases negative
        · rw [if_neg (by simp)]
          simpa using hlen
        · simp only [if_true] at hlen ⊢
          split
          · simp only [List.length_singleton]
            omega
          · simp only [List.length_nil]
            omega
    · cases h

/-! ## inside a value -/

theorem mem_of_lookup_eq_some {α β : Type} [BEq α] [LawfulBEq α] {rows : List (α × β)} {a : α}
    {b : β} (h : rows.lookup a = some b) : (a, b) ∈ rows := by
  obtain ⟨l₁, l₂, rfl, -⟩ := List.lookup_eq_some_iff.mp h
  exact List.mem_append_right _ (List.mem_cons_self ..)

/-- the first value stands somewhere in the second -/
inductive Inside : Json → Json → Prop
  | refl (v : Json) : Inside v v
  | item {u v : Json} {items : List Json} : v ∈ items → Inside u v → Inside u (.array items)
  | field {u : Json} {f : String × Json} {fields : List (String × Json)} :
      f ∈ fields → Inside u f.2 → Inside u (.object fields)

/-- all integers in the value are short -/
def ShortIntegers (v : Json) : Prop := ∀ n, Inside (.int n) v → IsShort n

theorem ShortIntegers.of_inside {u v : Json} (h : ShortIntegers v)
    (hinside : ∀ w, Inside w u → Inside w v) : ShortIntegers u :=
  fun n hn => h n (hinside _ hn)

theorem shortIntegers_array {items : List Json} (h : ∀ v ∈ items, ShortIntegers v) :
    ShortIntegers (.array items) := by
  rintro n hn
  cases hn with
  | item hmem hn => exact h _ hmem n hn

theorem shortIntegers_object {fields : List (String × Json)}
    (h : ∀ f ∈ fields, ShortIntegers f.2) : ShortIntegers (.object fields) := by
  rintro n hn
  cases hn with
  | field hmem hn => exact h _ hmem n hn

/-! ## tokens -/

/-- a token whose integers are short -/
def ShortToken (t : Token) : Prop := ∀ v, t = .value v → ShortIntegers v

theorem shortToken_value {v : Json} (h : ShortIntegers v) : ShortToken (.value v) := by
  rintro _ ⟨⟩
  exact h

theorem name?_short {cs rest : List Char} {v : Json} (h : name? cs = some (v, rest)) :
    ShortIntegers v := by
  simp only [name?, Option.map_eq_some_iff, Prod.exists, Prod.mk.injEq] at h
  obtain ⟨n, w, hn, rfl, -⟩ := h
  have hmem := List.mem_of_find?_eq_some hn
  simp only [names, List.mem_cons, Prod.mk.injEq, List.not_mem_nil, or_false] at hmem
  intro n hn
  rcases hmem with ⟨_, rfl⟩ | ⟨_, rfl⟩ | ⟨_, rfl⟩ | ⟨_, rfl⟩ | ⟨_, rfl⟩ | ⟨_, rfl⟩ <;> cases hn

theorem number?_short {cs rest : List Char} {v : Json} (h : number? cs = some (v, rest)) :
    ShortIntegers v := by
  intro n hn
  have hv : ∀ items, v ≠ .array items ∧ ∀ fields, v ≠ .object fields := by
    unfold number? at h
    simp only [Option.bind_eq_bind, Option.bind_eq_some_iff, Prod.exists] at h
    obtain ⟨_, _, -, h⟩ := h
    split at h
    · cases h
    · simp only [Option.bind_eq_some_iff, Prod.exists] at h
      obtain ⟨_, _, -, _, _, -, h⟩ := h
      split at h <;>
      · cases h
        exact fun _ => ⟨nofun, fun _ => nofun⟩
  cases hn with
  | refl => exact number?_isShort h
  | item _ _ => exact absurd rfl (hv _).1
  | field _ _ => exact absurd rfl ((hv []).2 _)

theorem read?_short {cs rest : List Char} {t : Token} (h : read? cs = some (t, rest)) :
    ShortToken t := by
  unfold read? at h
  split at h
  · cases h
  · simp only [Option.map_eq_some_iff, Prod.exists, Prod.mk.injEq] at h
    obtain ⟨s, r, -, rfl, -⟩ := h
    exact shortToken_value fun n hn => nomatch hn
  · split at h
    · next hmark =>
      cases h
      have hmem := mem_of_lookup_eq_some hmark
      simp only [marks, List.mem_cons, Prod.mk.injEq, List.not_mem_nil, or_false] at hmem
      rcases hmem with ⟨_, rfl⟩ | ⟨_, rfl⟩ | ⟨_, rfl⟩ | ⟨_, rfl⟩ | ⟨_, rfl⟩ | ⟨_, rfl⟩ <;> nofun
    · simp only [Option.map_eq_some_iff, Prod.exists, Prod.mk.injEq, Option.or_eq_some_iff] at h
      obtain ⟨v, r, hv | ⟨-, hv⟩, rfl, -⟩ := h
      · exact shortToken_value (name?_short hv)
      · exact shortToken_value (number?_short hv)

theorem tokens?_short {cs : List Char} {ts : List Token} (h : tokens? cs = some ts) :
    ∀ t ∈ ts, ShortToken t := by
  fun_induction tokens? cs generalizing ts with
  | case1 cs _ =>
    cases h
    nofun
  | case2 => cases h
  | case3 cs c rest _ t after hread ih =>
    rw [Option.map_eq_some_iff] at h
    obtain ⟨more, hmore, rfl⟩ := h
    intro u hu
    rcases List.mem_cons.mp hu with rfl | hu
    · exact read?_short hread
    · exact ih hmore u hu

/-! ## the stack -/

theorem takeBack_mem {isOpen : Token → Bool} {inside stack ts below : List Token}
    (h : takeBack isOpen inside stack = some (ts, below)) :
    (∀ t ∈ ts, t ∈ inside ∨ t ∈ stack) ∧ ∀ t ∈ below, t ∈ stack := by
  induction stack generalizing inside with
  | nil => cases h
  | cons u stack ih =>
    unfold takeBack at h
    split at h
    · cases h
      exact ⟨fun t ht => .inl ht, fun t ht => List.mem_cons_of_mem u ht⟩
    · obtain ⟨hts, hbelow⟩ := ih h
      refine ⟨fun t ht => ?_, fun t ht => List.mem_cons_of_mem u (hbelow t ht)⟩
      rcases hts t ht with hin | hin
      · rcases List.mem_cons.mp hin with rfl | hin
        · exact .inr (List.mem_cons_self ..)
        · exact .inl hin
      · exact .inr (List.mem_cons_of_mem u hin)

theorem items?_mem {ts : List Token} {items : List Json} (h : items? ts = some items) :
    ∀ v ∈ items, .value v ∈ ts := by
  fun_induction items? ts generalizing items with
  | case1 =>
    cases h
    nofun
  | case2 v =>
    cases h
    simp
  | case3 v t ts ih =>
    rw [Option.map_eq_some_iff] at h
    obtain ⟨more, hmore, rfl⟩ := h
    intro w hw
    rcases List.mem_cons.mp hw with rfl | hw
    · exact List.mem_cons_self ..
    · exact List.mem_cons_of_mem _ (List.mem_cons_of_mem _ (ih hmore w hw))
  | case4 => cases h

theorem fields?_mem {ts : List Token} {fields : List (String × Json)}
    (h : fields? ts = some fields) : ∀ f ∈ fields, .value f.2 ∈ ts := by
  fun_induction fields? ts generalizing fields with
  | case1 =>
    cases h
    nofun
  | case2 k v =>
    cases h
    simp
  | case3 k v t ts ih =>
    rw [Option.map_eq_some_iff] at h
    obtain ⟨more, hmore, rfl⟩ := h
    intro g hg
    rcases List.mem_cons.mp hg with rfl | hg
    · simp
    · exact List.mem_append_right [.value (.string k), .colon, .value v, .comma] (ih hmore g hg)
  | case4 => cases h

section
variable {stack stack' : List Token} (hstack : ∀ t ∈ stack, ShortToken t)
include hstack

/-- a token whose integers are short leaves a stack of such tokens -/
theorem shift_short {t : Token} (ht : ShortToken t) (h : shift stack t = some stack') :
    ∀ u ∈ stack', ShortToken u := by
  unfold shift at h
  split at h
  · simp only [Option.bind_eq_bind, Option.bind_eq_some_iff, Prod.exists] at h
    obtain ⟨inside, below, htake, items, hitems, h⟩ := h
    obtain ⟨hinside, hbelow⟩ := takeBack_mem htake
    split at h
    · cases h
      intro u hu
      rcases List.mem_cons.mp hu with rfl | hu
      · refine shortToken_value (shortIntegers_array fun v hv => ?_)
        have hmem := (hinside _ (items?_mem hitems v hv)).resolve_left List.not_mem_nil
        exact hstack _ hmem v rfl
      · exact hstack u (hbelow u hu)
    · cases h
  · simp only [Option.bind_eq_bind, Option.bind_eq_some_iff, Prod.exists] at h
    obtain ⟨inside, below, htake, fields, hfields, h⟩ := h
    obtain ⟨hinside, hbelow⟩ := takeBack_mem htake
    split at h
    · cases h
      intro u hu
      rcases List.mem_cons.mp hu with rfl | hu
      · refine shortToken_value (shortIntegers_object fun f hf => ?_)
        have hmem := (hinside _ (fields?_mem hfields f hf)).resolve_left List.not_mem_nil
        exact hstack _ hmem f.2 rfl
      · exact hstack u (hbelow u hu)
    · cases h
  · cases h
    intro u hu
    rcases List.mem_cons.mp hu with rfl | hu
    · exact ht
    · exact hstack u hu

theorem shiftAll_short {ts : List Token} (hts : ∀ t ∈ ts, ShortToken t)
    (h : shiftAll stack ts = some stack') : ∀ u ∈ stack', ShortToken u := by
  induction ts generalizing stack with
  | nil =>
    cases h
    exact hstack
  | cons t ts ih =>
    obtain ⟨next, hshift, hrest⟩ := Option.bind_eq_some_iff.mp h
    have hnext := shift_short hstack (hts t (List.mem_cons_self ..)) hshift
    exact ih hnext (fun u hu => hts u (List.mem_cons_of_mem t hu)) hrest

end

/-- **a value that was parsed has short integers only** -/
theorem parse?_short {text : String} {v : Json} (h : parse? text = some v) : ShortIntegers v := by
  obtain ⟨ts, hts, h⟩ := Option.bind_eq_some_iff.mp h
  unfold ofTokens? at h
  split at h
  · next hstack =>
    cases h
    exact shiftAll_short (by nofun) (tokens?_short hts) hstack _ (List.mem_singleton_self _) _ rfl
  · cases h

end DdlToJava.Json
