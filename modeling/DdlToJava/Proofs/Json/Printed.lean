import DdlToJava.Json.Printer
import DdlToJava.Json.Token

/-!
# Printed values as tokens

A value that is written in one piece is read back as one token, whatever stands behind it that may
follow a value.  Strings come back character by character.  A number comes back if its whole part
is not too long; `IsShort` says so of an integer.

* `tokens?_cons`                 the tokens of a text, from the first one on;
* `stringBody?_printed`          a printed string up to its closing quote;
* `head?_toDigits`               only zero has a zero in front;
* `number?_integer`, `number?_decimal`
                                 printed numbers;
* `EndsValue`                    what may stand behind a value;
* `read?_quoted`, `read?_integer`, `read?_decimal`
                                 the token that a printed value is.
-/

namespace DdlToJava.Json

open Text

/-- an integer whose written form is not too long to be read -/
def IsShort (n : Int) : Prop := (Printer.integer n).length ≤ Token.wholeLimit

namespace Token

/-! ## one token after the other -/

theorem tokens?_nil : tokens? [] = some [] := by
  rw [tokens?.eq_def]
  rfl

/-- the first token of a text, and the tokens behind it -/
theorem tokens?_cons {c : Char} (hc : isBlank c = false) (cs : List Char) :
    tokens? (c :: cs) = (read? (c :: cs)).bind fun x => (tokens? x.2).map (x.1 :: ·) := by
  have hdrop : (c :: cs).dropWhile isBlank = c :: cs := List.dropWhile_cons_of_neg (by simp [hc])
  rw [tokens?.eq_def]
  split
  · next h =>
    rw [hdrop] at h
    cases h
  · next c' rest h =>
    rw [hdrop] at h
    cases h
    split
    · next h => rw [h, Option.bind_none]
    · next h => rw [h, Option.bind_some]

/-! ## strings -/

theorem hexValue?_digitChar : ∀ n < 16, hexValue? (Nat.digitChar n) = some n := by
  decide

/-- a printed character is read back -/
theorem character?_printed (c : Char) (rest : List Char) :
    character? (Printer.character c ++ rest) = some (c, rest) := by
  unfold Printer.character
  split
  case isTrue h =>
    subst h
    rfl
  case isFalse hquote =>
    split
    case isTrue h =>
      subst h
      rfl
    case isFalse hslash =>
      split
      case isTrue h =>
        have hhigh : hexValue? (Nat.digitChar (c.toNat / 16)) = some (c.toNat / 16) :=
          hexValue?_digitChar _ (by omega)
        have hlow : hexValue? (Nat.digitChar (c.toNat % 16)) = some (c.toNat % 16) :=
          hexValue?_digitChar _ (by omega)
        have hzero : hexValue? '0' = some 0 := by decide
        have hnumber : ((0 * 16 + 0) * 16 + c.toNat / 16) * 16 + c.toNat % 16 = c.toNat := by omega
        have hunit : hexUnit? ('0' :: '0' :: Nat.digitChar (c.toNat / 16) ::
            Nat.digitChar (c.toNat % 16) :: rest) = some (c.toNat, rest) := by
          simp only [hexUnit?, hzero, hhigh, hlow, Option.bind_eq_bind, Option.bind_some, hnumber]
        show unit? ('0' :: '0' :: Nat.digitChar (c.toNat / 16) ::
            Nat.digitChar (c.toNat % 16) :: rest) = _
        unfold unit?
        rw [hunit, Option.bind_eq_bind, Option.bind_some]
        dsimp only
        rw [if_pos (by omega), Char.ofNat_toNat]
      case isFalse h =>
        show character? (c :: rest) = _
        rw [character?.eq_4 _ _ (by simp [hslash]) (by simp [hslash]),
          if_neg (by simp [h, hslash, hquote])]

/-- a printed character does not end the string -/
theorem head?_character (c : Char) (rest : List Char) :
    (Printer.character c ++ rest).head? ≠ some '"' := by
  unfold Printer.character
  split
  · simp
  · split
    · simp
    · split
      · simp [Printer.escaped]
      · simpa

theorem stringBody?_quote (rest : List Char) : stringBody? ('"' :: rest) = some ([], rest) := by
  rw [stringBody?.eq_def]
  rfl

theorem stringBody?_of_character {cs rest : List Char} {c : Char} (hhead : cs.head? ≠ some '"')
    (h : character? cs = some (c, rest)) :
    stringBody? cs = (stringBody? rest).map fun (s, rest) => (c :: s, rest) := by
  rw [stringBody?.eq_def]
  split
  · next hquote => exact absurd hquote hhead
  · split
    · next hnone => simp [h] at hnone
    · next hsome =>
      rw [h] at hsome
      cases hsome
      rfl

/-- a printed string is read back up to its closing quote -/
theorem stringBody?_printed (s rest : List Char) :
    stringBody? (s.flatMap Printer.character ++ '"' :: rest) = some (s, rest) := by
  induction s with
  | nil => exact stringBody?_quote rest
  | cons c s ih =>
    rw [List.flatMap_cons, List.append_assoc,
      stringBody?_of_character (head?_character c _) (character?_printed c _), ih]
    rfl

theorem read?_quoted (s : String) (rest : List Char) :
    read? (Printer.quoted s ++ rest) = some (.value (.string s), rest) := by
  have hbody := stringBody?_printed s.toList rest
  show (stringBody? ((s.toList.flatMap Printer.character ++ ['"']) ++ rest)).map _ = _
  rw [List.append_assoc, List.singleton_append, hbody, Option.map_some]
  dsimp only
  rw [String.ofList_toList]

/-! ## numbers -/

/-- what may stand behind a value: nothing, a comma or a closing mark -/
def EndsValue (rest : List Char) : Prop :=
  ∀ c, rest.head? = some c → c = ',' ∨ c = ']' ∨ c = '\x7d'

section
variable {rest : List Char} (hrest : EndsValue rest)
include hrest

theorem EndsValue.not_digit (c : Char) (hc : rest.head? = some c) : c.isDigit = false := by
  rcases hrest c hc with rfl | rfl | rfl <;> decide

theorem EndsValue.fraction? : fraction? rest = some ([], rest) := by
  cases rest with
  | nil => rfl
  | cons c cs => rcases hrest c rfl with rfl | rfl | rfl <;> rfl

theorem EndsValue.exponent? : exponent? rest = some (none, rest) := by
  cases rest with
  | nil => rfl
  | cons c cs => rcases hrest c rfl with rfl | rfl | rfl <;> rfl

end

theorem isDigit_toDigits {n : Nat} : ∀ c ∈ Nat.toDigits 10 n, c.isDigit = true := fun _ hc =>
  Nat.isDigit_of_mem_toDigits (by decide) (by decide) hc

theorem head?_toDigits_append (n : Nat) (rest : List Char) :
    (Nat.toDigits 10 n ++ rest).head? = (Nat.toDigits 10 n).head? := by
  obtain ⟨d, ds, hds⟩ := List.exists_cons_of_ne_nil (Nat.toDigits_ne_nil (b := 10) (n := n))
  rw [hds]
  rfl

theorem isDigit_head? {n : Nat} {rest : List Char} {c : Char}
    (h : (Nat.toDigits 10 n ++ rest).head? = some c) : c.isDigit = true := by
  rw [head?_toDigits_append] at h
  exact isDigit_toDigits c (List.mem_of_mem_head? h)

/-- only zero has a zero in front -/
theorem head?_toDigits {n : Nat} (h : (Nat.toDigits 10 n).head? = some '0') : n = 0 := by
  induction n using Nat.strongRecOn with
  | ind n ih =>
    by_cases hlt : n < 10
    · rw [Nat.toDigits_of_lt_base hlt] at h
      have hdigit : ∀ m < 10, Nat.digitChar m = '0' → m = 0 := by decide
      exact hdigit n hlt (Option.some.inj h)
    · have hle : 10 ≤ n := Nat.not_lt.mp hlt
      rw [Nat.toDigits_of_base_le (by decide) hle, head?_toDigits_append] at h
      have hzero := ih (n / 10) (Nat.div_lt_self (by omega) (by decide)) h
      omega

/-- digits stand in front without a needless zero -/
theorem no_leading_zero (n : Nat) :
    ¬((Nat.toDigits 10 n).head? = some '0' ∧ 1 < (Nat.toDigits 10 n).length) := by
  rintro ⟨hhead, hlen⟩
  rw [head?_toDigits hhead] at hlen
  exact absurd hlen (by decide)

/-- a minus sign, if there is one -/
def minus (negative : Bool) : List Char := if negative then ['-'] else []

theorem sign_minus (negative : Bool) (n : Nat) (rest : List Char) :
    sign (minus negative ++ (Nat.toDigits 10 n ++ rest)) =
      (negative, Nat.toDigits 10 n ++ rest) := by
  cases negative with
  | true => rfl
  | false =>
    refine sign.eq_2 _ fun cs h => ?_
    have hhead : (Nat.toDigits 10 n ++ rest).head? = some '-' := congrArg List.head? h
    exact absurd (isDigit_head? hhead) (by decide)

theorem run?_toDigits (n : Nat) {rest : List Char}
    (h : ∀ c, rest.head? = some c → c.isDigit = false) :
    run? Char.isDigit (Nat.toDigits 10 n ++ rest) = some (Nat.toDigits 10 n, rest) :=
  run?_append Char.isDigit Nat.toDigits_ne_nil isDigit_toDigits h

/-- a number with the digits of `n` in front -/
theorem number?_signed {negative : Bool} {n : Nat} {rest : List Char}
    (hshort : (minus negative).length + (Nat.toDigits 10 n).length ≤ wholeLimit)
    (hdigit : ∀ c, rest.head? = some c → c.isDigit = false) :
    number? (minus negative ++ (Nat.toDigits 10 n ++ rest)) = (do
      let (places, cs) ← fraction? rest
      let (exponent, cs) ← exponent? cs
      let m := Nat.ofDigitChars 10 (Nat.toDigits 10 n ++ places) 0
      if places = [] ∧ exponent = none then
        some (.int (if negative then -(m : Int) else m), cs)
      else some (.decimal ⟨negative, m, exponent.getD 0 - places.length⟩, cs)) := by
  have hlong : isOverlong negative (Nat.toDigits 10 n) = false := by
    unfold isOverlong
    rw [decide_eq_false_iff_not, Nat.not_lt]
    cases negative <;> simpa [minus, Nat.add_comm] using hshort
  unfold number?
  rw [sign_minus]
  dsimp only
  rw [run?_toDigits n hdigit, Option.bind_eq_bind, Option.bind_some, if_neg]
  rintro (h | h)
  · exact no_leading_zero n h
  · rw [hlong] at h
    cases h

theorem integer_eq (n : Int) : Printer.integer n = minus (n < 0) ++ Nat.toDigits 10 n.natAbs := by
  unfold Printer.integer minus
  by_cases h : n < 0 <;> simp [h]

theorem signed_natAbs (n : Int) :
    (if (decide (n < 0)) = true then -(n.natAbs : Int) else n.natAbs) = n := by
  split
  · next h =>
    rw [decide_eq_true_iff] at h
    omega
  · next h =>
    rw [decide_eq_true_iff] at h
    omega

/-- a short integer is read back -/
theorem number?_integer {n : Int} (h : IsShort n) {rest : List Char} (hrest : EndsValue rest) :
    number? (Printer.integer n ++ rest) = some (.int n, rest) := by
  unfold IsShort at h
  rw [integer_eq, List.length_append] at h
  rw [integer_eq, List.append_assoc, number?_signed h hrest.not_digit, hrest.fraction?]
  simp only [Option.bind_eq_bind, Option.bind_some, hrest.exponent?, List.append_nil, true_and,
    if_true, Nat.ofDigitChars_ten_toDigits, signed_natAbs]

/-- a printed exponent is read back -/
theorem exponent?_integer (n : Int) {rest : List Char} (hrest : EndsValue rest) :
    exponent? ('e' :: (Printer.integer n ++ rest)) = some (some n, rest) := by
  have hplus : ∀ cs, Printer.integer n ++ rest ≠ '+' :: cs := by
    intro cs heq
    have hhead : (Printer.integer n ++ rest).head? = some '+' := by rw [heq]; rfl
    rw [integer_eq, List.append_assoc] at hhead
    by_cases hn : n < 0
    · simp [minus, hn] at hhead
    · rw [decide_eq_false hn] at hhead
      exact absurd (isDigit_head? hhead) (by decide)
  have hsign : sign (Printer.integer n ++ rest) =
      (decide (n < 0), Nat.toDigits 10 n.natAbs ++ rest) := by
    rw [integer_eq, List.append_assoc, sign_minus]
  unfold exponent?
  dsimp only
  rw [if_pos (.inl rfl)]
  split
  · next heq => exact absurd heq (hplus _)
  · rw [hsign, run?_toDigits _ hrest.not_digit, Option.bind_eq_bind, Option.bind_some]
    dsimp only
    rw [Nat.ofDigitChars_ten_toDigits, signed_natAbs]

/-- a decimal with few digits is read back -/
theorem number?_decimal {d : Decimal}
    (h : (minus d.negative).length + (Nat.toDigits 10 d.digits).length ≤ wholeLimit)
    {rest : List Char} (hrest : EndsValue rest) :
    number? (Printer.decimal d ++ rest) = some (.decimal d, rest) := by
  have htext : Printer.decimal d ++ rest = minus d.negative ++
      (Nat.toDigits 10 d.digits ++ ('e' :: (Printer.integer d.exponent ++ rest))) := by
    unfold Printer.decimal minus
    simp only [List.append_assoc, List.cons_append]
  have hfraction : fraction? ('e' :: (Printer.integer d.exponent ++ rest)) =
      some ([], 'e' :: (Printer.integer d.exponent ++ rest)) := rfl
  rw [htext, number?_signed h (by simp), hfraction]
  simp only [Option.bind_eq_bind, Option.bind_some, exponent?_integer _ hrest, List.append_nil,
    Nat.ofDigitChars_ten_toDigits]
  simp

/-! ## the token of a printed value -/

/-- a number is no mark and no name -/
theorem read?_number {negative : Bool} {n : Nat} {rest : List Char} :
    read? (minus negative ++ (Nat.toDigits 10 n ++ rest)) =
      (number? (minus negative ++ (Nat.toDigits 10 n ++ rest))).map
        fun (v, rest) => (.value v, rest) := by
  obtain ⟨d, ds, hds⟩ := List.exists_cons_of_ne_nil (Nat.toDigits_ne_nil (b := 10) (n := n))
  have hd : d.isDigit = true := isDigit_toDigits d (by rw [hds]; exact List.mem_cons_self ..)
  have hne : ∀ k : Char, k.isDigit = false → d ≠ k := by
    rintro k hk rfl
    rw [hd] at hk
    cases hk
  rw [hds]
  cases negative with
  | true =>
    have hname : name? ('-' :: d :: (ds ++ rest)) = none := by
      have hI := (hne 'I' (by decide)).symm
      simp [name?, names, hI]
    show ((name? ('-' :: d :: (ds ++ rest))).or _).map _ = _
    rw [hname, Option.none_or]
  | false =>
    have hmark : marks.lookup d = none := by
      rw [List.lookup_eq_none_iff]
      intro p hp
      rw [bne_iff_ne]
      refine hne p.1 ?_
      revert p
      decide
    have hname : name? (d :: (ds ++ rest)) = none := by
      have h₁ := (hne 'n' (by decide)).symm
      have h₂ := (hne 't' (by decide)).symm
      have h₃ := (hne 'f' (by decide)).symm
      have h₄ := (hne 'N' (by decide)).symm
      have h₅ := (hne 'I' (by decide)).symm
      have h₆ := (hne '-' (by decide)).symm
      simp [name?, names, h₁, h₂, h₃, h₄, h₅, h₆]
    show read? (d :: (ds ++ rest)) = _
    rw [read?.eq_3 _ _ (hne '"' (by decide))]
    simp only [hmark, hname, Option.none_or]
    rfl

theorem read?_integer {n : Int} (h : IsShort n) {rest : List Char} (hrest : EndsValue rest) :
    read? (Printer.integer n ++ rest) = some (.value (.int n), rest) := by
  have hnumber := number?_integer h hrest
  rw [integer_eq, List.append_assoc] at hnumber ⊢
  rw [read?_number, hnumber]
  rfl

theorem read?_decimal {d : Decimal}
    (h : (minus d.negative).length + (Nat.toDigits 10 d.digits).length ≤ wholeLimit)
    {rest : List Char} (hrest : EndsValue rest) :
    read? (Printer.decimal d ++ rest) = some (.value (.decimal d), rest) := by
  have hnumber := number?_decimal h hrest
  unfold Printer.decimal at hnumber ⊢
  rw [List.append_assoc, List.append_assoc] at hnumber ⊢
  have hread : read? (minus d.negative ++
      (Nat.toDigits 10 d.digits ++ ('e' :: Printer.integer d.exponent ++ rest))) = _ :=
    read?_number
  unfold minus at hread
  rw [hread, hnumber]
  rfl

end Token

end DdlToJava.Json
