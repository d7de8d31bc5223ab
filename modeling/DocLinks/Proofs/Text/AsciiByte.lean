import DocLinks.Proofs.Text.Utf8

/-!
ASCII in decoded bytes, however broken they are. The bytes that are read or replaced together with
the first byte of a character are tails, and what begins with a byte beyond ASCII is read as a
character beyond ASCII, so every character of ASCII comes from its own byte, and every byte of
ASCII is read as its character.
-/

namespace DocLinks.Utf8

theorem range_of_lengthOf? {a : UInt8} {n : Nat} (h : lengthOf? a = some n) :
    (n = 1 ∧ a.toNat < 0x80) ∨ (n = 2 ∧ 0xC2 ≤ a.toNat ∧ a.toNat ≤ 0xDF) ∨
      (n = 3 ∧ 0xE0 ≤ a.toNat ∧ a.toNat ≤ 0xEF) ∨ (n = 4 ∧ 0xF0 ≤ a.toNat ∧ a.toNat ≤ 0xF4) := by
  rw [lengthOf?_eq] at h
  split_ifs at h <;> simp_all

theorem isTail_of_allowsSecond {first second : UInt8} (h : allowsSecond first second = true) :
    isTail second = true := by
  obtain ⟨hlow, hhigh, _⟩ := allowsSecond_iff.mp h
  exact isTail_iff.mpr ⟨hlow, hhigh⟩

theorem isTail_of_mem_take_readChar (a : UInt8) (rest : List UInt8) :
    ∀ b ∈ rest.take (readChar a rest).2, isTail b = true := by
  have hsecond : ∀ b, allowsSecond a b = true → isTail b = true := fun b => isTail_of_allowsSecond
  fun_cases readChar a rest <;> simp_all

theorem toNat_ofNat_of_scalar {n : Nat} (h : n < 0xD800 ∨ 0xDFFF < n ∧ n < 0x110000) :
    (Char.ofNat n).toNat = n := by
  rw [Char.ofNat, dif_pos h]
  rfl

theorem le_toNat_ofNat {n : Nat} (h : 0x80 ≤ n ∧ (n < 0xD800 ∨ 0xDFFF < n ∧ n < 0x110000)) :
    0x80 ≤ (Char.ofNat n).toNat := by
  rw [toNat_ofNat_of_scalar h.2]
  exact h.1

/-- A byte beyond ASCII begins no character of ASCII: short forms are not read. -/
theorem le_toNat_readChar {a : UInt8} (h : 0x80 ≤ a.toNat) (rest : List UInt8) :
    0x80 ≤ (readChar a rest).1.toNat := by
  have hreplacement : 0x80 ≤ replacement.toNat := by decide
  fun_cases readChar a rest with
  | case1 rest hlength =>
      have hrange := range_of_lengthOf? hlength
      omega
  | case2 b rest hlength hb =>
      have hrange := range_of_lengthOf? hlength
      apply le_toNat_ofNat
      rw [tailBits]
      omega
  | case5 b hlength hb c rest hc =>
      have hrange := range_of_lengthOf? hlength
      have hsecond := allowsSecond_iff.mp (by simpa using hb)
      apply le_toNat_ofNat
      rw [tailBits, tailBits]
      omega
  | case10 b hlength hb c d rest hc hd =>
      have hrange := range_of_lengthOf? hlength
      have hsecond := allowsSecond_iff.mp (by simpa using hb)
      apply le_toNat_ofNat
      rw [tailBits, tailBits, tailBits]
      omega
  | _ => exact hreplacement

variable {b : UInt8} (hb : b.toNat < 0x80)

include hb

theorem readChar_fst_eq_iff {a : UInt8} {rest : List UInt8} :
    (readChar a rest).1 = Char.ofNat b.toNat ↔ a = b := by
  have hchar : (Char.ofNat b.toNat).toNat = b.toNat := toNat_ofNat_of_scalar (by omega)
  rcases Nat.lt_or_ge a.toNat 0x80 with ha | ha
  · rw [readChar_one rest rfl ha, ← UInt8.toNat_inj, ← Char.toNat_inj, hchar,
      toNat_ofNat_of_scalar (by omega)]
  · have hread := le_toNat_readChar ha rest
    constructor
    · intro hsame
      rw [hsame] at hread
      omega
    · rintro rfl
      omega

theorem count_decodeAfter (bytes : List UInt8) {skipped : Nat}
    (hskipped : ∀ t ∈ bytes.take skipped, isTail t = true) :
    (decodeAfter skipped bytes).count (Char.ofNat b.toNat) = bytes.count b := by
  -- The bytes that are still to be skipped are tails, so no byte of ASCII is among them.
  induction bytes generalizing skipped with
  | nil => rw [decodeAfter, List.count_nil, List.count_nil]
  | cons a rest ih =>
      cases skipped with
      | zero =>
          rw [decodeAfter, List.count_cons, List.count_cons,
            ih (isTail_of_mem_take_readChar a rest)]
          simp only [beq_iff_eq, readChar_fst_eq_iff hb]
      | succ skipped =>
          obtain ⟨ha, htails⟩ := List.forall_mem_cons.mp hskipped
          have htail := isTail_iff.mp ha
          have hne : a ≠ b := by
            rintro rfl
            omega
          rw [decodeAfter, ih htails, List.count_cons_of_ne hne]

theorem count_decode (bytes : List UInt8) :
    (decode bytes).count (Char.ofNat b.toNat) = bytes.count b :=
  count_decodeAfter hb bytes (by simp)

omit hb in
theorem count_newline_decode (bytes : List UInt8) : (decode bytes).count '\n' = bytes.count 0x0A :=
  count_decode (b := 0x0A) (by decide) bytes

end DocLinks.Utf8
