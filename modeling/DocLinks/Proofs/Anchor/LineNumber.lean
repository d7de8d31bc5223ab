import DocLinks.Proofs.Anchor.LinePointer

namespace DocLinks

namespace Text

theorem digitChar_sub {c : Char} (h : c.isDigit = true) : Nat.digitChar (c.toNat - 48) = c := by
  have hrange : 48 ≤ c.toNat ∧ c.toNat ≤ 57 := Char.isDigit_iff_toNat.mp h
  apply Char.toNat_inj.mp
  rw [Nat.toNat_digitChar_of_lt_ten (by omega)]
  omega

theorem ofNat_digit {c : Char} (h : c.isDigit = true) : ofNat (c.toNat - 48) = [c] := by
  have hrange : 48 ≤ c.toNat ∧ c.toNat ≤ 57 := Char.isDigit_iff_toNat.mp h
  rw [ofNat, Nat.toDigits_of_lt_base (by omega), digitChar_sub h]

theorem ofNat_ofDigitChars (digits : Text) (h : ∀ c ∈ digits, c.isDigit = true) {n : Nat}
    (hn : 0 < n) : ofNat (Nat.ofDigitChars 10 digits n) = ofNat n ++ digits := by
  induction digits generalizing n with
  | nil => simp
  | cons c digits ih =>
      obtain ⟨hc, hdigits⟩ := List.forall_mem_cons.mp h
      have hrange : 48 ≤ c.toNat ∧ c.toNat ≤ 57 := Char.isDigit_iff_toNat.mp hc
      have hnext : ofNat (10 * n + (c.toNat - 48)) = ofNat n ++ [c] := by
        rw [← ofNat_digit hc, ofNat, ofNat, ofNat,
          Nat.toDigits_append_toDigits (by decide) hn (by omega)]
      rw [Nat.ofDigitChars_cons, List.append_cons, ← hnext]
      exact ih hdigits (by omega)

theorem ofNat_front_ne_zero {n : Nat} (h : 0 < n) : ∃ c rest, ofNat n = c :: rest ∧ c ≠ '0' := by
  induction n using Nat.strongRecOn with
  | ind n ih =>
      rw [ofNat]
      by_cases hlt : n < 10
      · refine ⟨n.digitChar, [], Nat.toDigits_of_lt_base hlt, ?_⟩
        rw [ne_eq, Nat.digitChar_eq_zero]
        omega
      · obtain ⟨c, rest, hfront, hc⟩ := ih (n / 10) (by omega) (by omega)
        rw [ofNat] at hfront
        rw [Nat.toDigits_of_base_le (by decide) (by omega), hfront]
        exact ⟨c, _, rfl, hc⟩

end Text

namespace LinePointer

variable {anchor content digits : Text}

theorem numberOf_eq_ofDigitChars (digits : Text) :
    numberOf digits = Nat.ofDigitChars 10 digits 0 := by
  rw [numberOf, Nat.ofDigitChars_eq_foldl]
  congr
  funext n c
  rw [Nat.mul_comm]

theorem numberOf_ofNat (n : Nat) : numberOf (Text.ofNat n) = n := by
  rw [numberOf_eq_ofDigitChars, Text.ofNat, Nat.ofDigitChars_ten_toDigits]

theorem isNumeral_ofNat {n : Nat} (h : 0 < n) : IsNumeral (Text.ofNat n) :=
  ⟨fun _ hc => Nat.isDigit_of_mem_toDigits (by decide) (by decide) hc, Text.ofNat_front_ne_zero h⟩

theorem IsNumeral.eq_ofNat (h : IsNumeral digits) :
    0 < numberOf digits ∧ digits = Text.ofNat (numberOf digits) := by
  obtain ⟨c, rest, rfl, hzero⟩ := h.front
  obtain ⟨hc, hrest⟩ := List.forall_mem_cons.mp h.isDigit
  have hrange : 48 ≤ c.toNat ∧ c.toNat ≤ 57 := Char.isDigit_iff_toNat.mp hc
  have hne : c.toNat ≠ 48 := fun hc => hzero (Char.toNat_inj.mp hc)
  have hvalue : numberOf (c :: rest) = Nat.ofDigitChars 10 rest (c.toNat - 48) := by
    rw [numberOf_eq_ofDigitChars, Nat.ofDigitChars_cons, Nat.mul_zero, Nat.zero_add]
    rfl
  have hwritten : Text.ofNat (numberOf (c :: rest)) = c :: rest := by
    rw [hvalue, Text.ofNat_ofDigitChars rest hrest (by omega), Text.ofNat_digit hc]
    rfl
  refine ⟨Nat.pos_of_ne_zero ?_, hwritten.symm⟩
  intro hnone
  rw [hnone] at hwritten
  exact hzero (List.cons.inj hwritten).1.symm

theorem isNumeral_iff : IsNumeral digits ↔ ∃ n, 0 < n ∧ digits = Text.ofNat n := by
  constructor
  · intro h
    exact ⟨_, h.eq_ofNat⟩
  · rintro ⟨n, hn, rfl⟩
    exact isNumeral_ofNat hn

theorem exists_written_within_iff {newlines : Nat} :
    (∃ p, Written p anchor ∧ p.Within newlines) ↔
      ∃ mark, IsMark mark ∧
        ((∃ digits, IsNumeral digits ∧ anchor = 'L' :: (digits ++ mark) ∧
            numberOf digits ≤ newlines) ∨
          ∃ first last, IsNumeral first ∧ IsNumeral last ∧
            anchor = 'L' :: (first ++ '-' :: 'L' :: (last ++ mark)) ∧
            numberOf first < numberOf last ∧ numberOf last ≤ newlines) := by
  constructor
  · rintro ⟨p, hwritten, hwithin⟩
    cases hwritten with
    | line hdigits hmark => exact ⟨_, hmark, Or.inl ⟨_, hdigits, rfl, hwithin⟩⟩
    | range hfirst hlast hmark =>
        exact ⟨_, hmark, Or.inr ⟨_, _, hfirst, hlast, rfl, hwithin⟩⟩
  · rintro ⟨mark, hmark, ⟨digits, hdigits, rfl, hline⟩ |
      ⟨first, last, hfirst, hlast, rfl, horder, hline⟩⟩
    · exact ⟨.line digits, .line hdigits hmark, hline⟩
    · exact ⟨.range first last, .range hfirst hlast hmark, horder, hline⟩

/-- An anchor points to lines of a content exactly when all of it is a numeral behind the letter,
or a range of two such numerals in their order, with or without an equals sign at the end, and the
content has the line that is named last. The numerals are what positive numbers are written as. -/
theorem matchLinePointer_eq_lineTarget_iff_numbers (h : content.count '\n' < maxLine) :
    (matchLinePointer anchor content = .lineTarget ↔
      ∃ mark, (mark = [] ∨ mark = ['=']) ∧
        ((∃ digits, IsNumeral digits ∧ anchor = 'L' :: (digits ++ mark) ∧
            Nat.ofDigitChars 10 digits 0 ≤ content.count '\n') ∨
          ∃ first last, IsNumeral first ∧ IsNumeral last ∧
            anchor = 'L' :: (first ++ '-' :: 'L' :: (last ++ mark)) ∧
            Nat.ofDigitChars 10 first 0 < Nat.ofDigitChars 10 last 0 ∧
            Nat.ofDigitChars 10 last 0 ≤ content.count '\n')) ∧
    (matchLinePointer anchor content = .lineTarget ↔
      ∃ mark, (mark = [] ∨ mark = ['=']) ∧
        ((∃ n, 0 < n ∧ anchor = 'L' :: (Text.ofNat n ++ mark) ∧ n ≤ content.count '\n') ∨
          ∃ m n, 0 < m ∧ anchor = 'L' :: (Text.ofNat m ++ '-' :: 'L' :: (Text.ofNat n ++ mark)) ∧
            m < n ∧ n ≤ content.count '\n')) := by
  simp only [← numberOf_eq_ofDigitChars]
  rw [matchLinePointer_eq_lineTarget_iff h, exists_written_within_iff]
  refine ⟨Iff.rfl, ?_⟩
  constructor
  · rintro ⟨mark, hmark, ⟨digits, hdigits, rfl, hline⟩ |
      ⟨first, last, hfirst, hlast, rfl, horder, hline⟩⟩
    · obtain ⟨n, hn, rfl⟩ := isNumeral_iff.mp hdigits
      rw [numberOf_ofNat] at hline
      exact ⟨mark, hmark, Or.inl ⟨n, hn, rfl, hline⟩⟩
    · obtain ⟨m, hm, rfl⟩ := isNumeral_iff.mp hfirst
      obtain ⟨n, _, rfl⟩ := isNumeral_iff.mp hlast
      rw [numberOf_ofNat] at horder hline
      rw [numberOf_ofNat] at horder
      exact ⟨mark, hmark, Or.inr ⟨m, n, hm, rfl, horder, hline⟩⟩
  · rintro ⟨mark, hmark, ⟨n, hn, rfl, hline⟩ | ⟨m, n, hm, rfl, horder, hline⟩⟩
    · refine ⟨mark, hmark, Or.inl ⟨_, isNumeral_ofNat hn, rfl, ?_⟩⟩
      rwa [numberOf_ofNat]
    · refine ⟨mark, hmark, Or.inr ⟨_, _, isNumeral_ofNat hm, isNumeral_ofNat (by omega), rfl, ?_⟩⟩
      rw [numberOf_ofNat, numberOf_ofNat]
      exact ⟨horder, hline⟩

theorem range_of_two_lines_points_to_lines :
    let content := "a\n\nb".toList
    content.count '\n' < maxLine ∧
      matchLinePointer "L1-L2=".toList content = .lineTarget ∧
      ∀ anchor ∈ ["L3", "L02", "L2\n", "L2==", "L2-L2", "L1-L9999999999999999999999"],
        matchLinePointer anchor.toList content ≠ .lineTarget := by
  intro content
  have hcontent : content.count '\n' < maxLine := by decide
  refine ⟨hcontent, ?_, by decide +kernel⟩
  apply (matchLinePointer_eq_lineTarget_iff_numbers hcontent).2.mpr
  refine ⟨['='], Or.inr rfl, Or.inr ⟨1, 2, ?_⟩⟩
  decide +kernel

end LinePointer

end DocLinks
