import DdlToJava.Json.Basic
import DdlToJava.Text.Keyword
import DdlToJava.Text.Word

/-!
# JSON tokens

A JSON text is a list of tokens with white space between them.  Strings and numbers are tokens
with their value; a string may hold no control character and no half of a surrogate pair, and a
number no needless zero and no more than `wholeLimit` characters in its whole part.
-/

namespace DdlToJava.Json

open Text

/-- a mark of a JSON text, or a value that is written in one piece -/
inductive Token where
  | openArray
  | closeArray
  | openObject
  | closeObject
  | comma
  | colon
  | value (v : Json)
  deriving Repr, Inhabited

namespace Token

/-- the four characters that may stand between tokens -/
def isBlank (c : Char) : Bool := c = ' ' || c = '\t' || c = '\n' || c = '\r'

/-! ## strings -/

/-- what a character stands for behind a backslash -/
def escapes : List (Char × Char) :=
  [('"', '"'), ('\\', '\\'), ('/', '/'), ('b', '\x08'), ('f', '\x0c'), ('n', '\n'), ('r', '\r'),
    ('t', '\t')]

/-- the value of a hexadecimal digit -/
def hexValue? (c : Char) : Option Nat :=
  if '0' ≤ c ∧ c ≤ '9' then some (c.toNat - 48)
  else if 'a' ≤ c ∧ c ≤ 'f' then some (c.toNat - 87)
  else if 'A' ≤ c ∧ c ≤ 'F' then some (c.toNat - 55)
  else none

/-- the value of four hexadecimal digits -/
def hexUnit? : List Char → Option (Nat × List Char)
  | a :: b :: c :: d :: cs => do
    let a ← hexValue? a
    let b ← hexValue? b
    let c ← hexValue? c
    let d ← hexValue? d
    some (((a * 16 + b) * 16 + c) * 16 + d, cs)
  | _ => none

/-- the character of one unit or of a surrogate pair, read behind the first `\u` -/
def unit? (cs : List Char) : Option (Char × List Char) := do
  let (n, cs) ← hexUnit? cs
  if n < 0xD800 ∨ 0xE000 ≤ n then some (Char.ofNat n, cs)
  else if 0xDC00 ≤ n then none
  else
    let cs ← symbol? '\\' cs
    let cs ← symbol? 'u' cs
    let (low, cs) ← hexUnit? cs
    if 0xDC00 ≤ low ∧ low < 0xE000 then
      some (Char.ofNat (0x10000 + (n - 0xD800) * 0x400 + (low - 0xDC00)), cs)
    else none

/-- one character of a string, as it is or escaped -/
def character? : List Char → Option (Char × List Char)
  | [] => none
  | '\\' :: 'u' :: cs => unit? cs
  | '\\' :: c :: cs => (escapes.lookup c).map (·, cs)
  | c :: cs => if c.toNat < 32 ∨ c = '\\' ∨ c = '"' then none else some (c, cs)

theorem hexUnit?_length {cs rest : List Char} {n : Nat} (h : hexUnit? cs = some (n, rest)) :
    rest.length < cs.length := by
  match cs, h with
  | a :: b :: c :: d :: cs, h =>
    simp only [hexUnit?, Option.bind_eq_bind, Option.bind_eq_some_iff, Option.some.injEq,
      Prod.mk.injEq] at h
    obtain ⟨_, _, _, _, _, _, _, _, _, rfl⟩ := h
    simp only [List.length_cons]
    omega

theorem unit?_length {cs rest : List Char} {c : Char} (h : unit? cs = some (c, rest)) :
    rest.length < cs.length := by
  simp only [unit?, Option.bind_eq_bind, Option.bind_eq_some_iff, Prod.exists] at h
  obtain ⟨n, more, hn, h⟩ := h
  have hlen := hexUnit?_length hn
  split at h
  · simp only [Option.some.injEq, Prod.mk.injEq] at h
    rw [← h.2]
    exact hlen
  · split at h
    · simp at h
    · simp only [Option.bind_eq_some_iff] at h
      obtain ⟨a, ha, b, hb, ⟨low, m⟩, hm, h⟩ := h
      have h1 := symbol?_length ha
      have h2 := symbol?_length hb
      have h3 := hexUnit?_length hm
      split at h
      · simp only [Option.some.injEq, Prod.mk.injEq] at h
        rw [← h.2]
        omega
      · simp at h

theorem character?_length {cs rest : List Char} {c : Char}
    (h : character? cs = some (c, rest)) : rest.length < cs.length := by
  unfold character? at h
  split at h
  · simp at h
  · have := unit?_length h
    simp only [List.length_cons]
    omega
  · simp only [Option.map_eq_some_iff, Prod.mk.injEq] at h
    obtain ⟨_, _, _, rfl⟩ := h
    simp only [List.length_cons]
    omega
  · split at h
    · simp at h
    · simp only [Option.some.injEq, Prod.mk.injEq] at h
      rw [← h.2]
      simp

/-- the characters of a string up to its closing quote, and what follows it -/
def stringBody? (cs : List Char) : Option (List Char × List Char) :=
  match cs.head? with
  | some '"' => some ([], cs.tail)
  | _ =>
    match _h : character? cs with
    | none => none
    | some (c, rest) => (stringBody? rest).map fun (s, rest) => (c :: s, rest)
termination_by cs.length
decreasing_by exact character?_length _h

theorem stringBody?_length {cs s rest : List Char} (h : stringBody? cs = some (s, rest)) :
    rest.length ≤ cs.length := by
  fun_induction stringBody? cs generalizing s with
  | case1 cs hc =>
    simp only [Option.some.injEq, Prod.mk.injEq] at h
    rw [← h.2]
    simp
  | case2 => simp at h
  | case3 cs c more hc _ ih =>
    simp only [Option.map_eq_some_iff, Prod.exists, Prod.mk.injEq] at h
    obtain ⟨t, r, ht, _, rfl⟩ := h
    have := ih ht
    have := character?_length hc
    omega

/-! ## numbers -/

/-- how many characters the whole part of a number may take, its sign included -/
def wholeLimit : Nat := 4300

/-- does the whole part of a number take too many characters? -/
def isOverlong (negative : Bool) (whole : List Char) : Bool :=
  wholeLimit < whole.length + (if negative then 1 else 0)

/-- a sign and what follows it -/
def sign (cs : List Char) : Bool × List Char :=
  match cs with
  | '-' :: cs => (true, cs)
  | cs => (false, cs)

/-- the digits behind a point; none if there is no point -/
def fraction? (cs : List Char) : Option (List Char × List Char) :=
  match cs with
  | '.' :: cs => run? Char.isDigit cs
  | cs => some ([], cs)

/-- the exponent, if there is one -/
def exponent? (cs : List Char) : Option (Option Int × List Char) :=
  match cs with
  | e :: cs' =>
    if e = 'e' ∨ e = 'E' then do
      let (negative, cs') := match cs' with
        | '+' :: r => (false, r)
        | r => sign r
      let (ds, rest) ← run? Char.isDigit cs'
      let n : Int := Nat.ofDigitChars 10 ds 0
      some (some (if negative then -n else n), rest)
    else some (none, cs)
  | [] => some (none, [])

/-- a number, and what follows it -/
def number? (cs : List Char) : Option (Json × List Char) := do
  let (negative, cs) := sign cs
  let (whole, cs) ← run? Char.isDigit cs
  if whole.head? = some '0' ∧ 1 < whole.length ∨ isOverlong negative whole then none
  else
    let (places, cs) ← fraction? cs
    let (exponent, cs) ← exponent? cs
    let n := Nat.ofDigitChars 10 (whole ++ places) 0
    if places = [] ∧ exponent = none then
      some (.int (if negative then -(n : Int) else n), cs)
    else some (.decimal ⟨negative, n, exponent.getD 0 - places.length⟩, cs)

theorem sign_length (cs : List Char) : (sign cs).2.length ≤ cs.length := by
  unfold sign
  split <;> simp

theorem fraction?_length {cs ds rest : List Char} (h : fraction? cs = some (ds, rest)) :
    rest.length ≤ cs.length := by
  unfold fraction? at h
  split at h
  · have := run?_length h
    simp only [List.length_cons]
    omega
  · simp only [Option.some.injEq, Prod.mk.injEq] at h
    exact h.2 ▸ Nat.le_refl _

theorem exponent?_length {cs rest : List Char} {e : Option Int}
    (h : exponent? cs = some (e, rest)) : rest.length ≤ cs.length := by
  unfold exponent? at h
  split at h
  · next c cs =>
    split at h
    · simp only [Option.bind_eq_bind, Option.bind_eq_some_iff, Prod.exists, Option.some.injEq,
        Prod.mk.injEq] at h
      obtain ⟨ds, r, hr, _, rfl⟩ := h
      have hlen := run?_length hr
      split at hlen
      · simp only [List.length_cons] at hlen ⊢
        omega
      · have := sign_length cs
        simp only [List.length_cons]
        omega
    · simp only [Option.some.injEq, Prod.mk.injEq] at h
      exact h.2 ▸ Nat.le_refl _
  · simp only [Option.some.injEq, Prod.mk.injEq] at h
    exact h.2 ▸ Nat.le_refl _

theorem number?_length {cs rest : List Char} {v : Json} (h : number? cs = some (v, rest)) :
    rest.length < cs.length := by
  simp only [number?, Option.bind_eq_bind, Option.bind_eq_some_iff, Prod.exists] at h
  obtain ⟨whole, r, hw, h⟩ := h
  have h0 := sign_length cs
  have h1 := run?_length hw
  split at h
  · simp at h
  · simp only [Option.bind_eq_some_iff, Prod.exists] at h
    obtain ⟨places, r2, h2, e, r3, h3, h⟩ := h
    have h2 := fraction?_length h2
    have h3 := exponent?_length h3
    split at h <;>
    · simp only [Option.some.injEq, Prod.mk.injEq] at h
      rw [← h.2]
      omega

/-! ## names -/

/-- the values that are written by a name -/
def names : List (List Char × Json) :=
  [("null".toList, .null), ("true".toList, .bool true), ("false".toList, .bool false),
    ("NaN".toList, .nan), ("Infinity".toList, .infinity false),
    ("-Infinity".toList, .infinity true)]

/-- a name, and what follows it -/
def name? (cs : List Char) : Option (Json × List Char) :=
  (names.find? fun (n, _) => n.isPrefixOf cs).map fun (n, v) => (v, cs.drop n.length)

theorem name?_length {cs rest : List Char} {v : Json} (h : name? cs = some (v, rest)) :
    rest.length < cs.length := by
  simp only [name?, Option.map_eq_some_iff, Prod.exists, Prod.mk.injEq] at h
  obtain ⟨n, w, hn, _, rfl⟩ := h
  have hp := List.find?_some hn
  simp only at hp
  have hm := List.mem_of_find?_eq_some hn
  have hle := (List.isPrefixOf_iff_prefix.mp hp).length_le
  have hpos : 0 < n.length := by
    simp only [names, List.mem_cons, Prod.mk.injEq, List.not_mem_nil, or_false] at hm
    rcases hm with ⟨rfl, _⟩ | ⟨rfl, _⟩ | ⟨rfl, _⟩ | ⟨rfl, _⟩ | ⟨rfl, _⟩ | ⟨rfl, _⟩ <;> decide
  rw [List.length_drop]
  omega

/-! ## the tokens of a text -/

/-- the marks -/
def marks : List (Char × Token) :=
  [('[', .openArray), (']', .closeArray), ('\x7b', .openObject), ('\x7d', .closeObject),
    (',', .comma), (':', .colon)]

/-- the token at the front of a text, and what follows it -/
def read? (cs : List Char) : Option (Token × List Char) :=
  match cs with
  | [] => none
  | '"' :: rest =>
    (stringBody? rest).map fun (s, rest) => (.value (.string (String.ofList s)), rest)
  | c :: rest =>
    match marks.lookup c with
    | some t => some (t, rest)
    | none => ((name? cs).or (number? cs)).map fun (v, rest) => (.value v, rest)

theorem read?_length {cs rest : List Char} {t : Token} (h : read? cs = some (t, rest)) :
    rest.length < cs.length := by
  unfold read? at h
  split at h
  · simp at h
  · simp only [Option.map_eq_some_iff, Prod.exists, Prod.mk.injEq] at h
    obtain ⟨s, r, hs, _, rfl⟩ := h
    have := stringBody?_length hs
    simp only [List.length_cons]
    omega
  · next c more =>
    split at h
    · simp only [Option.some.injEq, Prod.mk.injEq] at h
      rw [← h.2]
      simp
    · simp only [Option.map_eq_some_iff, Prod.exists, Prod.mk.injEq, Option.or_eq_some_iff] at h
      obtain ⟨v, r, hv | ⟨_, hv⟩, _, rfl⟩ := h
      · exact name?_length hv
      · exact number?_length hv

/-- the tokens of a text -/
def tokens? (cs : List Char) : Option (List Token) :=
  match _hb : cs.dropWhile isBlank with
  | [] => some []
  | c :: rest =>
    match _h : read? (c :: rest) with
    | none => none
    | some (t, after) => (tokens? after).map (t :: ·)
termination_by cs.length
decreasing_by
  have hle := (List.dropWhile_sublist isBlank (l := cs)).length_le
  rw [_hb] at hle
  exact Nat.lt_of_lt_of_le (read?_length _h) hle

end Token

end DdlToJava.Json
