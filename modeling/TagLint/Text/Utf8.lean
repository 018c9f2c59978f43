import TagLint.Text.Basic
/-!
UTF-8: how many bytes a text takes, and the strict reading of bytes, which refuses overlong forms,
surrogates, values above 10FFFF and cut sequences.
-/

namespace TagLint.Text

/-- The number of bytes that a code point takes. -/
def charBytes (c : Char) : Nat :=
  let n := c.toNat
  if n < 0x80 then 1 else if n < 0x800 then 2 else if n < 0x10000 then 3 else 4

/-- The number of bytes that a text takes. -/
def byteLength : Text → Nat
  | [] => 0
  | c :: r => charBytes c + byteLength r

/-- The payload of a continuation byte `10xxxxxx`. -/
def continuation? (b : UInt8) : Option Nat :=
  if 0x80 ≤ b.toNat ∧ b.toNat < 0xC0 then some (b.toNat - 0x80) else none

/-- The character with this code, unless the code is a surrogate or too large. -/
def scalar? (n : Nat) : Option Char :=
  if n < 0xD800 ∨ (0xE000 ≤ n ∧ n < 0x110000) then some (Char.ofNat n) else none

/-- The character of a one-byte form. -/
def form1? (a : UInt8) : Option Char :=
  if a.toNat < 0x80 then some (Char.ofNat a.toNat) else none

/-- The character of a two-byte form; the lead bytes C0 and C1 could only spell overlong forms. -/
def form2? (a b : UInt8) : Option Char := do
  let x ← continuation? b
  if 0xC2 ≤ a.toNat ∧ a.toNat < 0xE0 then some (Char.ofNat ((a.toNat - 0xC0) * 64 + x)) else none

/-- The character of a three-byte form. -/
def form3? (a b c : UInt8) : Option Char := do
  let x ← continuation? b
  let y ← continuation? c
  let code := ((a.toNat - 0xE0) * 64 + x) * 64 + y
  if 0xE0 ≤ a.toNat ∧ a.toNat < 0xF0 ∧ 0x800 ≤ code then scalar? code else none

/-- The character of a four-byte form. -/
def form4? (a b c d : UInt8) : Option Char := do
  let x ← continuation? b
  let y ← continuation? c
  let z ← continuation? d
  let code := (((a.toNat - 0xF0) * 64 + x) * 64 + y) * 64 + z
  if 0xF0 ≤ a.toNat ∧ a.toNat < 0xF5 ∧ 0x10000 ≤ code then scalar? code else none

/-- The text that the bytes spell, if they are well-formed UTF-8. The four forms have different
lead bytes, so at most one of them fits. -/
def decode? : List UInt8 → Option Text
  | [] => some []
  | a :: r =>
    match form1? a with
    | some x => (decode? r).map (x :: ·)
    | none =>
      match r with
      | [] => none
      | b :: r =>
        match form2? a b with
        | some x => (decode? r).map (x :: ·)
        | none =>
          match r with
          | [] => none
          | c :: r =>
            match form3? a b c with
            | some x => (decode? r).map (x :: ·)
            | none =>
              match r with
              | [] => none
              | d :: r =>
                match form4? a b c d with
                | some x => (decode? r).map (x :: ·)
                | none => none

/-- The bytes that spell a character. -/
def encodeChar (c : Char) : List UInt8 :=
  let n := c.toNat
  let tail (unit : Nat) : UInt8 := UInt8.ofNat (0x80 + n / unit % 64)
  if n < 0x80 then [UInt8.ofNat n]
  else if n < 0x800 then [UInt8.ofNat (0xC0 + n / 64), tail 1]
  else if n < 0x10000 then [UInt8.ofNat (0xE0 + n / 4096), tail 64, tail 1]
  else [UInt8.ofNat (0xF0 + n / 262144), tail 4096, tail 64, tail 1]

/-- The bytes that spell a text. -/
def encode (t : Text) : List UInt8 := t.flatMap encodeChar

end TagLint.Text
