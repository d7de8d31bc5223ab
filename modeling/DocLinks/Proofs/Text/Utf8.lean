import DocLinks.Text.Utf8
import Mathlib.Data.List.Basic

namespace DocLinks.Utf8

theorem lengthOf?_eq (first : UInt8) :
    lengthOf? first =
      if first.toNat < 0x80 then some 1
      else if 0xC2 ≤ first.toNat ∧ first.toNat ≤ 0xDF then some 2
      else if 0xE0 ≤ first.toNat ∧ first.toNat ≤ 0xEF then some 3
      else if 0xF0 ≤ first.toNat ∧ first.toNat ≤ 0xF4 then some 4
      else none := by
  simp [lengthOf?, UInt8.lt_iff_toNat_lt, UInt8.le_iff_toNat_le]

theorem isTail_iff {b : UInt8} : isTail b = true ↔ 0x80 ≤ b.toNat ∧ b.toNat ≤ 0xBF := by
  simp [isTail, UInt8.le_iff_toNat_le]

theorem allowsSecond_iff {first second : UInt8} :
    allowsSecond first second = true ↔
      0x80 ≤ second.toNat ∧ second.toNat ≤ 0xBF ∧
        (first.toNat = 0xE0 → 0xA0 ≤ second.toNat) ∧
        (first.toNat = 0xED → second.toNat ≤ 0x9F) ∧
        (first.toNat = 0xF0 → 0x90 ≤ second.toNat) ∧
        (first.toNat = 0xF4 → second.toNat ≤ 0x8F) := by
  simp only [allowsSecond, isTail, beq_iff_eq, ← UInt8.toNat_inj, UInt8.le_iff_toNat_le]
  split_ifs <;> simp_all <;> omega

variable {a b c d : UInt8} {n : Nat} (rest : List UInt8)

theorem readChar_one (ha : a.toNat = n) (hn : n < 0x80) :
    readChar a rest = (Char.ofNat n, 0) := by
  have hlength : lengthOf? a = some 1 := by
    rw [lengthOf?_eq, if_pos (by omega)]
  simp [readChar, hlength, ha]

theorem readChar_two (ha : a.toNat = 0xC0 + n / 64) (hb : b.toNat = 0x80 + n % 64)
    (hlow : 0x80 ≤ n) (hhigh : n < 0x800) : readChar a (b :: rest) = (Char.ofNat n, 1) := by
  have hlength : lengthOf? a = some 2 := by
    rw [lengthOf?_eq, if_neg (by omega), if_pos (by omega)]
  have htail : isTail b = true := isTail_iff.mpr (by omega)
  have hvalue : a.toNat % 32 * 64 + tailBits b = n := by
    rw [tailBits]
    omega
  simp [readChar, hlength, htail, hvalue]

theorem readChar_three (ha : a.toNat = 0xE0 + n / 4096) (hb : b.toNat = 0x80 + n / 64 % 64)
    (hc : c.toNat = 0x80 + n % 64) (hlow : 0x800 ≤ n) (hhigh : n < 0x10000)
    (hsurrogate : n < 0xD800 ∨ 0xDFFF < n) :
    readChar a (b :: c :: rest) = (Char.ofNat n, 2) := by
  have hlength : lengthOf? a = some 3 := by
    rw [lengthOf?_eq, if_neg (by omega), if_neg (by omega), if_pos (by omega)]
  have hsecond : allowsSecond a b = true := allowsSecond_iff.mpr (by omega)
  have htail : isTail c = true := isTail_iff.mpr (by omega)
  have hvalue : (a.toNat % 16 * 64 + tailBits b) * 64 + tailBits c = n := by
    rw [tailBits, tailBits]
    omega
  simp [readChar, hlength, hsecond, htail, hvalue]

theorem readChar_four (ha : a.toNat = 0xF0 + n / 262144) (hb : b.toNat = 0x80 + n / 4096 % 64)
    (hc : c.toNat = 0x80 + n / 64 % 64) (hd : d.toNat = 0x80 + n % 64) (hlow : 0x10000 ≤ n)
    (hhigh : n < 0x110000) :
    readChar a (b :: c :: d :: rest) = (Char.ofNat n, 3) := by
  have hlength : lengthOf? a = some 4 := by
    rw [lengthOf?_eq, if_neg (by omega), if_neg (by omega), if_neg (by omega), if_pos (by omega)]
  have hsecond : allowsSecond a b = true := allowsSecond_iff.mpr (by omega)
  have hthird : isTail c = true := isTail_iff.mpr (by omega)
  have hfourth : isTail d = true := isTail_iff.mpr (by omega)
  have hvalue : ((a.toNat % 8 * 64 + tailBits b) * 64 + tailBits c) * 64 + tailBits d = n := by
    rw [tailBits, tailBits, tailBits]
    omega
  simp [readChar, hlength, hsecond, hthird, hfourth, hvalue]

theorem readChar_encodeChar (c : Char) :
    ∃ first tail, encodeChar c = first :: tail ∧
      ∀ rest, readChar first (tail ++ rest) = (c, tail.length) := by
  have hvalid : c.toNat < 0xD800 ∨ 0xDFFF < c.toNat ∧ c.toNat < 0x110000 := c.valid
  have hchar := Char.ofNat_toNat c
  have hbyte : ∀ n, n < 256 → (UInt8.ofNat n).toNat = n := fun n => UInt8.toNat_ofNat_of_lt'
  rw [encodeChar]
  generalize c.toNat = n at hvalid hchar ⊢
  subst hchar
  split
  next hone =>
    exact ⟨_, _, rfl, fun rest => readChar_one rest (hbyte _ (by omega)) hone⟩
  next hone =>
    split
    next htwo =>
      refine ⟨_, _, rfl, fun rest => readChar_two rest (hbyte _ ?_) (hbyte _ ?_) ?_ htwo⟩
      all_goals omega
    next htwo =>
      split
      next hthree =>
        refine ⟨_, _, rfl, fun rest =>
          readChar_three rest (hbyte _ ?_) (hbyte _ ?_) (hbyte _ ?_) ?_ hthree ?_⟩
        all_goals omega
      next hthree =>
        refine ⟨_, _, rfl, fun rest =>
          readChar_four rest (hbyte _ ?_) (hbyte _ ?_) (hbyte _ ?_) (hbyte _ ?_) ?_ ?_⟩
        all_goals omega

theorem decodeAfter_append (front rest : List UInt8) :
    decodeAfter front.length (front ++ rest) = decodeAfter 0 rest := by
  induction front with
  | nil => rfl
  | cons a front ih => exact ih

theorem decode_encodeChar_append (c : Char) (rest : List UInt8) :
    decode (encodeChar c ++ rest) = c :: decode rest := by
  obtain ⟨first, tail, hbytes, hread⟩ := readChar_encodeChar c
  rw [hbytes, List.cons_append, decode, decodeAfter, hread rest]
  exact congrArg (c :: ·) (decodeAfter_append tail rest)

theorem decode_encode (t : Text) : decode (encode t) = t := by
  induction t with
  | nil => rfl
  | cons c t ih =>
      rw [encode, List.flatMap_cons, decode_encodeChar_append]
      exact congrArg (c :: ·) ih

end DocLinks.Utf8
