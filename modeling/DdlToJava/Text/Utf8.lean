/-!
# UTF-8

`encode` writes a text as bytes and `decode` reads it back.  A fault names the first bytes that
cannot be read: a byte that starts no character, a start whose continuation is broken off by
another byte, or a start that the end of the text cuts off.  Overlong forms, surrogates and
numbers beyond the last code point count as broken off behind their first byte.
-/

namespace DdlToJava.Text.Utf8

/-- a text as bytes -/
def encode (cs : List Char) : List UInt8 := cs.flatMap String.utf8EncodeChar

theorem encode_nil : encode [] = [] := rfl

theorem encode_append (a b : List Char) : encode (a ++ b) = encode a ++ encode b := by
  simp [encode]

/-! ## faults -/

/-- why bytes cannot be read -/
inductive Reason where
  | invalidStart
  | invalidContinuation
  | unexpectedEnd
  deriving DecidableEq, Repr

/-- the bytes that cannot be read: the place of the first and how many they are -/
structure Fault where
  position : Nat
  byte : UInt8
  count : Nat
  reason : Reason
  deriving DecidableEq, Repr

def Reason.text : Reason → String
  | .invalidStart => "invalid start byte"
  | .invalidContinuation => "invalid continuation byte"
  | .unexpectedEnd => "unexpected end of data"

/-- the bytes of a fault: one by its value, several by their places -/
def Fault.span (f : Fault) : String :=
  if f.count = 1 then
    "byte 0x"
      ++ String.ofList [Nat.digitChar (f.byte.toNat / 16), Nat.digitChar (f.byte.toNat % 16)]
      ++ " in position " ++ toString f.position
  else
    "bytes in position " ++ toString f.position ++ "-" ++ toString (f.position + f.count - 1)

def Fault.message (f : Fault) : String :=
  "'utf-8' codec can't decode " ++ f.span ++ ": " ++ f.reason.text

/-! ## reading -/

/-- what a start byte promises: how many bytes follow, the bits it brings along, and the range of
the byte after it -/
structure Lead where
  following : Nat
  bits : Nat
  low : Nat := 0x80
  high : Nat := 0xBF
  deriving DecidableEq, Repr

/-- the promise of a start byte -/
def lead? (b : UInt8) : Option Lead :=
  let n := b.toNat
  if n < 0x80 then some ⟨0, n, 0x80, 0xBF⟩
  else if n < 0xC2 then none
  else if n < 0xE0 then some ⟨1, n - 0xC0, 0x80, 0xBF⟩
  else if n < 0xF0 then
    some ⟨2, n - 0xE0, if n = 0xE0 then 0xA0 else 0x80, if n = 0xED then 0x9F else 0xBF⟩
  else if n < 0xF5 then
    some ⟨3, n - 0xF0, if n = 0xF0 then 0x90 else 0x80, if n = 0xF4 then 0x8F else 0xBF⟩
  else none

/-- the number that a start and its following bytes stand for; on a fault, how many of them were in
order and what was wrong.  `low` and `high` bound the next byte. -/
def follow (low high bits : Nat) : Nat → List UInt8 → Except (Nat × Reason) Nat
  | 0, _ => .ok bits
  | _ + 1, [] => .error (0, .unexpectedEnd)
  | k + 1, b :: bs =>
    if low ≤ b.toNat ∧ b.toNat ≤ high then
      (follow 0x80 0xBF (bits * 64 + (b.toNat - 0x80)) k bs).mapError fun (n, r) => (n + 1, r)
    else .error (0, .invalidContinuation)

/-- the text that the bytes from place `position` on write -/
def decodeFrom (position : Nat) (bytes : List UInt8) : Except Fault (List Char) :=
  match bytes with
  | [] => .ok []
  | b :: bs =>
    match lead? b with
    | none => .error ⟨position, b, 1, .invalidStart⟩
    | some l =>
      match follow l.low l.high l.bits l.following bs with
      | .error (n, r) => .error ⟨position, b, n + 1, r⟩
      | .ok n =>
        (decodeFrom (position + 1 + l.following) (bs.drop l.following)).map (Char.ofNat n :: ·)
termination_by bytes.length
decreasing_by simp only [List.length_drop, List.length_cons]; omega

/-- the text that bytes write -/
def decode (bytes : List UInt8) : Except Fault (List Char) := decodeFrom 0 bytes

theorem decode_nil : decode [] = .ok [] := by
  unfold decode decodeFrom
  rfl

end DdlToJava.Text.Utf8
