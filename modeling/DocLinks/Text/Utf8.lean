import DocLinks.Text.Basic

/-!
Reading bytes as UTF-8 without ever failing. A sequence that begins like a character but does not
complete one is replaced as a whole, up to the byte that breaks it, by the replacement character;
so is a byte that no character begins with.
-/

namespace DocLinks.Utf8

def replacement : Char := '\uFFFD'

def isTail (b : UInt8) : Bool :=
  0x80 ≤ b && b ≤ 0xBF

/-- Which second bytes a first byte of a character of three or four bytes allows: short forms,
surrogates and code points beyond the last are excluded. -/
def allowsSecond (first second : UInt8) : Bool :=
  if first == 0xE0 then 0xA0 ≤ second && second ≤ 0xBF
  else if first == 0xED then 0x80 ≤ second && second ≤ 0x9F
  else if first == 0xF0 then 0x90 ≤ second && second ≤ 0xBF
  else if first == 0xF4 then 0x80 ≤ second && second ≤ 0x8F
  else isTail second

def lengthOf? (first : UInt8) : Option Nat :=
  if first < 0x80 then some 1
  else if 0xC2 ≤ first && first ≤ 0xDF then some 2
  else if 0xE0 ≤ first && first ≤ 0xEF then some 3
  else if 0xF0 ≤ first && first ≤ 0xF4 then some 4
  else none

def tailBits (b : UInt8) : Nat :=
  b.toNat % 64

/-- The character that begins with the byte `a`, or its replacement, and how many of the bytes
behind `a` belong to it. -/
def readChar (a : UInt8) (rest : List UInt8) : Char × Nat :=
  match lengthOf? a, rest with
  | some 1, _ => (Char.ofNat a.toNat, 0)
  | some 2, b :: _ =>
      if isTail b then (Char.ofNat (a.toNat % 32 * 64 + tailBits b), 1) else (replacement, 0)
  | some 3, b :: rest =>
      if !allowsSecond a b then (replacement, 0)
      else
        match rest with
        | c :: _ =>
            if isTail c then
              (Char.ofNat ((a.toNat % 16 * 64 + tailBits b) * 64 + tailBits c), 2)
            else (replacement, 1)
        | [] => (replacement, 1)
  | some 4, b :: rest =>
      if !allowsSecond a b then (replacement, 0)
      else
        match rest with
        | c :: d :: _ =>
            if !isTail c then (replacement, 1)
            else if isTail d then
              (Char.ofNat (((a.toNat % 8 * 64 + tailBits b) * 64 + tailBits c) * 64 + tailBits d),
                3)
            else (replacement, 2)
        | [c] => if isTail c then (replacement, 2) else (replacement, 1)
        | [] => (replacement, 1)
  | _, _ => (replacement, 0)

def decodeAfter (skipped : Nat) : List UInt8 → Text
  | [] => []
  | a :: rest =>
      match skipped with
      | n + 1 => decodeAfter n rest
      | 0 => (readChar a rest).1 :: decodeAfter (readChar a rest).2 rest

/-- The text that the bytes stand for. -/
def decode (bytes : List UInt8) : Text :=
  decodeAfter 0 bytes

def encodeChar (c : Char) : List UInt8 :=
  let n := c.toNat
  if n < 0x80 then [UInt8.ofNat n]
  else if n < 0x800 then [UInt8.ofNat (0xC0 + n / 64), UInt8.ofNat (0x80 + n % 64)]
  else if n < 0x10000 then
    [UInt8.ofNat (0xE0 + n / 4096), UInt8.ofNat (0x80 + n / 64 % 64), UInt8.ofNat (0x80 + n % 64)]
  else
    [UInt8.ofNat (0xF0 + n / 262144), UInt8.ofNat (0x80 + n / 4096 % 64),
      UInt8.ofNat (0x80 + n / 64 % 64), UInt8.ofNat (0x80 + n % 64)]

def encode (t : Text) : List UInt8 :=
  t.flatMap encodeChar

end DocLinks.Utf8
