import DdlToJava.Text.Utf8

/-!
# Reading what was written

A text that is written as bytes is read back as it was.

* `follow_cons` reads one byte that continues a character;
* `decodeFrom_encodeChar` reads one character in front of any bytes;
* `decode_encode` reads a whole text.

The bounds on the byte behind a start are met because a code point is neither overlong in the form
that its size asks for, nor a surrogate, nor beyond the last one.
-/

namespace DdlToJava.Text.Utf8

/-! ## one byte -/

theorem byte_toNat {n : Nat} (h : n < 0x100) : (UInt8.ofNat n).toNat = n :=
  UInt8.toNat_ofNat_of_lt h

theorem lead?_one {n : Nat} (h : n ≤ 0x7F) :
    lead? (UInt8.ofNat n) = some ⟨0, n, 0x80, 0xBF⟩ := by
  unfold lead?
  simp only [byte_toNat (show n < 0x100 by omega)]
  rw [if_pos (by omega)]

theorem lead?_two {n : Nat} (hlow : 2 ≤ n) (hhigh : n < 0x20) :
    lead? (UInt8.ofNat (n + 0xC0)) = some ⟨1, n, 0x80, 0xBF⟩ := by
  unfold lead?
  simp only [byte_toNat (show n + 0xC0 < 0x100 by omega), Nat.add_sub_cancel]
  rw [if_neg (by omega), if_neg (by omega), if_pos (by omega)]

theorem lead?_three {n : Nat} (h : n < 0x10) :
    lead? (UInt8.ofNat (n + 0xE0)) =
      some ⟨2, n, if n = 0 then 0xA0 else 0x80, if n = 13 then 0x9F else 0xBF⟩ := by
  unfold lead?
  simp only [byte_toNat (show n + 0xE0 < 0x100 by omega), Nat.add_sub_cancel]
  rw [if_neg (by omega), if_neg (by omega), if_neg (by omega), if_pos (by omega)]
  simp only [Nat.add_eq_right, Nat.reduceEqDiff]

theorem lead?_four {n : Nat} (h : n ≤ 4) :
    lead? (UInt8.ofNat (n + 0xF0)) =
      some ⟨3, n, if n = 0 then 0x90 else 0x80, if n = 4 then 0x8F else 0xBF⟩ := by
  unfold lead?
  simp only [byte_toNat (show n + 0xF0 < 0x100 by omega), Nat.add_sub_cancel]
  rw [if_neg (by omega), if_neg (by omega), if_neg (by omega), if_neg (by omega),
    if_pos (by omega)]
  simp only [Nat.add_eq_right, Nat.reduceEqDiff]

/-- a byte that continues a character; what it brings along is below 64 -/
theorem follow_cons {low high bits k n m : Nat} {bs : List UInt8} (hn : n < 0x40)
    (hlow : low ≤ n + 0x80) (hhigh : n + 0x80 ≤ high)
    (h : follow 0x80 0xBF (bits * 64 + n) k bs = .ok m) :
    follow low high bits (k + 1) (UInt8.ofNat (n + 0x80) :: bs) = .ok m := by
  rw [follow, byte_toNat (show n + 0x80 < 0x100 by omega), if_pos ⟨hlow, hhigh⟩,
    Nat.add_sub_cancel, h]
  rfl

/-! ## one character -/

/-- a start byte, its continuation and what comes behind it -/
theorem decodeFrom_char {position : Nat} {b : UInt8} {l : Lead} {more bytes : List UInt8} {c : Char}
    (hlead : lead? b = some l) (hlength : more.length = l.following)
    (hfollow : follow l.low l.high l.bits l.following (more ++ bytes) = .ok c.toNat) :
    decodeFrom position (b :: more ++ bytes) =
      (decodeFrom (position + (b :: more).length) bytes).map (c :: ·) := by
  rw [List.cons_append, decodeFrom]
  simp only [hlead, hfollow]
  have hposition : position + 1 + l.following = position + (b :: more).length := by
    rw [List.length_cons, hlength]
    omega
  rw [hposition, ← hlength, List.drop_left, Char.ofNat_toNat]

/-- a character in front of any bytes is read as it was written -/
theorem decodeFrom_encodeChar (position : Nat) (c : Char) (bytes : List UInt8) :
    decodeFrom position (String.utf8EncodeChar c ++ bytes) =
      (decodeFrom (position + (String.utf8EncodeChar c).length) bytes).map (c :: ·) := by
  have hvalid : c.toNat < 0xD800 ∨ 0xDFFF < c.toNat ∧ c.toNat < 0x110000 := c.valid
  have hchar : String.utf8EncodeChar c = _ := String.utf8EncodeChar.eq_1 c
  have hnat : c.val.toNat = c.toNat := rfl
  simp only [hnat] at hchar
  rw [hchar]
  generalize hv : c.toNat = v at hvalid
  by_cases h1 : v ≤ 0x7F
  · rw [if_pos h1]
    show decodeFrom position (UInt8.ofNat v :: [] ++ bytes) = _
    exact decodeFrom_char (lead?_one h1) rfl (by rw [hv]; rfl)
  by_cases h2 : v ≤ 0x7FF
  · rw [if_neg h1, if_pos h2]
    refine decodeFrom_char (lead?_two (by omega) (by omega)) rfl ?_
    show follow 0x80 0xBF (v / 64 % 0x20) 1 (_ :: bytes) = .ok c.toNat
    refine follow_cons (by omega) (by omega) (by omega) ?_
    rw [follow, hv]
    exact congrArg _ (by omega)
  by_cases h3 : v ≤ 0xFFFF
  · rw [if_neg h1, if_neg h2, if_pos h3]
    refine decodeFrom_char (lead?_three (by omega)) rfl ?_
    -- the form is not overlong and the number is no surrogate
    have hlow : (if v / 4096 % 0x10 = 0 then 0xA0 else 0x80) ≤ v / 64 % 0x40 + 0x80 := by
      split <;> omega
    have hhigh : v / 64 % 0x40 + 0x80 ≤ (if v / 4096 % 0x10 = 13 then 0x9F else 0xBF) := by
      split <;> omega
    refine follow_cons (by omega) hlow hhigh ?_
    dsimp only
    refine follow_cons (by omega) (by omega) (by omega) ?_
    rw [follow, hv]
    exact congrArg _ (by omega)
  · rw [if_neg h1, if_neg h2, if_neg h3]
    refine decodeFrom_char (lead?_four (by omega)) rfl ?_
    -- the form is not overlong and the number is not beyond the last one
    have hlow : (if v / 262144 % 0x08 = 0 then 0x90 else 0x80) ≤ v / 4096 % 0x40 + 0x80 := by
      split <;> omega
    have hhigh : v / 4096 % 0x40 + 0x80 ≤ (if v / 262144 % 0x08 = 4 then 0x8F else 0xBF) := by
      split <;> omega
    refine follow_cons (by omega) hlow hhigh ?_
    dsimp only
    refine follow_cons (by omega) (by omega) (by omega) ?_
    refine follow_cons (by omega) (by omega) (by omega) ?_
    rw [follow, hv]
    exact congrArg _ (by omega)

/-! ## texts -/

/-- a text that was written is read from any place on -/
theorem decodeFrom_encode (position : Nat) (cs : List Char) :
    decodeFrom position (encode cs) = .ok cs := by
  induction cs generalizing position with
  | nil =>
    rw [encode_nil, decodeFrom]
  | cons c cs ih =>
    have hcons : encode (c :: cs) = String.utf8EncodeChar c ++ encode cs := List.flatMap_cons
    rw [hcons, decodeFrom_encodeChar, ih]
    rfl

/-- a text that was written is read back as it was -/
theorem decode_encode (cs : List Char) : decode (encode cs) = .ok cs := decodeFrom_encode 0 cs

end DdlToJava.Text.Utf8
