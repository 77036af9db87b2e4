/-
  UTF-8, both ways.

  Topics, keys and messages leave the bridge as bytes, and texts enter it as bytes.  `encode` writes
  a text; `decode?` reads exactly the well-formed sequences: no overlong form, no surrogate, nothing
  above U+10FFFF, no cut-off character.

  All arithmetic is on natural numbers, a byte being a number below 256.
-/

namespace FieldBridge

/-- A sequence of bytes. -/
abbrev Bytes := List UInt8

namespace Utf8

/-- The bytes of one character: one to four of them. -/
def encodeChar (c : Char) : Bytes :=
  let n := c.toNat
  if n < 0x80 then [n.toUInt8]
  else if n < 0x800 then [(0xC0 + n / 64).toUInt8, (0x80 + n % 64).toUInt8]
  else if n < 0x10000 then
    [(0xE0 + n / 4096).toUInt8, (0x80 + n / 64 % 64).toUInt8, (0x80 + n % 64).toUInt8]
  else
    [(0xF0 + n / 262144).toUInt8, (0x80 + n / 4096 % 64).toUInt8, (0x80 + n / 64 % 64).toUInt8,
      (0x80 + n % 64).toUInt8]

/-- The bytes of a text. -/
def encode (s : List Char) : Bytes := s.flatMap encodeChar

/-- A byte that continues a character. -/
def isTail (b : Nat) : Bool := 0x80 ≤ b && b < 0xC0

/-- Read one character after another; `done` holds the characters read so far, last first. -/
def decodeFrom? (done : List Char) : Bytes → Option (List Char)
  | [] => some done.reverse
  | a :: s₁ =>
    let a := a.toNat
    if a < 0x80 then decodeFrom? (Char.ofNat a :: done) s₁
    else match s₁ with
    | [] => none
    | b :: s₂ =>
      let b := b.toNat
      if !isTail b then none
      else if 0xC2 ≤ a && a < 0xE0 then
        decodeFrom? (Char.ofNat ((a - 0xC0) * 64 + (b - 0x80)) :: done) s₂
      else match s₂ with
      | [] => none
      | c :: s₃ =>
        let c := c.toNat
        if !isTail c then none
        else if 0xE0 ≤ a && a < 0xF0 then
          let n := (a - 0xE0) * 4096 + (b - 0x80) * 64 + (c - 0x80)
          if 0x800 ≤ n && !(0xD800 ≤ n && n < 0xE000) then
            decodeFrom? (Char.ofNat n :: done) s₃
          else none
        else match s₃ with
        | [] => none
        | d :: s₄ =>
          let d := d.toNat
          if !isTail d then none
          else if 0xF0 ≤ a && a < 0xF8 then
            let n := (a - 0xF0) * 262144 + (b - 0x80) * 4096 + (c - 0x80) * 64 + (d - 0x80)
            if 0x10000 ≤ n && n < 0x110000 then decodeFrom? (Char.ofNat n :: done) s₄
            else none
          else none

/-- The text whose UTF-8 form `s` is; `none` if `s` is not well formed. -/
def decode? (s : Bytes) : Option (List Char) := decodeFrom? [] s

@[simp] theorem encode_nil : encode [] = [] := rfl

@[simp] theorem encode_cons (c : Char) (s : List Char) :
    encode (c :: s) = encodeChar c ++ encode s := rfl

/-- The UTF-8 form of a string. -/
def ofString (s : String) : Bytes := encode s.toList

end Utf8

end FieldBridge
