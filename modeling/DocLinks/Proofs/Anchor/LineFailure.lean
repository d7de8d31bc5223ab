import DocLinks.Proofs.Anchor.LinePointer

/-!
How anchors into lines fail. By the numbers as they are written, a range fails for its order
before any line is asked for, and every other pointer for the lines that are missing. Since
numbers are cut down to the largest one before they are compared, a range that starts there or
behind it is taken to be out of order whatever its end is; all other anchors fail as their numbers
say.
-/

namespace DocLinks.LinePointer

/-- The digits of the numbers that a pointer names. -/
def numerals : LinePointer → List Text
  | .line digits => [digits]
  | .range first last => [first, last]

/-- An anchor fails in a content as its numbers say, however large they are. -/
structure FailsByNumbers (anchor content : Text) : Prop where
  order : ∀ first last, Written (.range first last) anchor →
    (matchLinePointer anchor content = .failed .multiLineTargetRangeInvalid ↔
      numberOf last ≤ numberOf first)
  rangeLines : ∀ first last, Written (.range first last) anchor →
    (matchLinePointer anchor content = .failed .lineTargetFail ↔
      numberOf first < numberOf last ∧ content.count '\n' < numberOf last)
  lines : ∀ digits, Written (.line digits) anchor →
    (matchLinePointer anchor content = .failed .lineTargetFail ↔
      content.count '\n' < numberOf digits)
  malformed : (∀ p, ¬ Written p anchor) → anchor.head? = some 'L' →
    matchLinePointer anchor content = .failed .lineTargetInvalid
  foreign : (∀ p, ¬ Written p anchor) → anchor.head? ≠ some 'L' →
    matchLinePointer anchor content = .failed .noAnchorsInFiletype

variable {anchor content digits first last : Text}

theorem matchLinePointer_line (h : Written (.line digits) anchor) (content : Text) :
    matchLinePointer anchor content = lineTarget digits content := by
  rw [matchLinePointer, parse?_eq_some_iff.mpr h]

theorem matchLinePointer_range (h : Written (.range first last) anchor) (content : Text) :
    matchLinePointer anchor content =
      if lineOf last ≤ lineOf first then .failed .multiLineTargetRangeInvalid
      else lineTarget last content := by
  rw [matchLinePointer, parse?_eq_some_iff.mpr h]

theorem matchLinePointer_of_not_written (h : ∀ p, ¬ Written p anchor) (content : Text) :
    matchLinePointer anchor content =
      if anchor.head? = some 'L' then .failed .lineTargetInvalid
      else .failed .noAnchorsInFiletype := by
  have hparse : parse? anchor = none := by
    rw [Option.eq_none_iff_forall_ne_some]
    intro p hp
    exact h p (parse?_eq_some_iff.mp hp)
  rw [matchLinePointer, hparse]

theorem lineTarget_cases (digits content : Text) :
    lineTarget digits content = .lineTarget ∨
      lineTarget digits content = .failed .lineTargetFail := by
  rw [lineTarget]
  split
  · exact Or.inl rfl
  · exact Or.inr rfl

theorem lineTarget_eq_failed_iff (h : content.count '\n' < maxLine) :
    lineTarget digits content = .failed .lineTargetFail ↔
      content.count '\n' < numberOf digits := by
  rw [← Nat.not_le, ← lineTarget_eq_iff h]
  rcases lineTarget_cases digits content with htarget | hfailed
  · simp [htarget]
  · simp [hfailed]

theorem Written.unique {p q : LinePointer} (hp : Written p anchor) (hq : Written q anchor) :
    p = q := by
  have hparse : parse? anchor = some p := parse?_eq_some_iff.mpr hp
  exact Option.some.inj (hparse.symm.trans (parse?_eq_some_iff.mpr hq))

theorem Within.numberOf_le {p : LinePointer} {newlines : Nat} (h : p.Within newlines)
    (hdigits : digits ∈ p.numerals) : numberOf digits ≤ newlines := by
  cases p with
  | line last =>
      obtain rfl : digits = last := List.mem_singleton.mp hdigits
      exact h
  | range first last =>
      obtain ⟨horder, hlast⟩ : numberOf first < numberOf last ∧ numberOf last ≤ newlines := h
      rcases List.mem_cons.mp hdigits with rfl | hdigits
      · omega
      · obtain rfl : digits = last := List.mem_singleton.mp hdigits
        exact hlast

theorem lineOf_le_lineOf_iff :
    lineOf last ≤ lineOf first ↔ numberOf last ≤ numberOf first ∨ maxLine ≤ numberOf first := by
  rw [lineOf, lineOf]
  omega

theorem matchLinePointer_eq_orderFailure_iff (h : Written (.range first last) anchor) :
    matchLinePointer anchor content = .failed .multiLineTargetRangeInvalid ↔
      numberOf last ≤ numberOf first ∨ maxLine ≤ numberOf first := by
  rw [matchLinePointer_range h, ← lineOf_le_lineOf_iff]
  split
  next hle => simp [hle]
  next hle => rcases lineTarget_cases last content with htarget | hfailed <;> simp_all

theorem matchLinePointer_eq_lineFailure_iff (h : Written (.range first last) anchor)
    (hcontent : content.count '\n' < maxLine) :
    matchLinePointer anchor content = .failed .lineTargetFail ↔
      (numberOf first < numberOf last ∧ numberOf first < maxLine) ∧
        content.count '\n' < numberOf last := by
  have horder : (numberOf first < numberOf last ∧ numberOf first < maxLine) ↔
      ¬ lineOf last ≤ lineOf first := by
    rw [lineOf_le_lineOf_iff]
    omega
  rw [matchLinePointer_range h, horder]
  split
  next hle => simp [hle]
  next hle => simp [hle, lineTarget_eq_failed_iff hcontent]

/-- An anchor fails as its numbers say unless it is a range in the right order that starts at the
largest number or behind it, which is taken to be out of order. No line behind the largest number
is ever found. -/
theorem failsByNumbers_iff (h : content.count '\n' < maxLine) :
    (FailsByNumbers anchor content ↔
      ∀ first last, Written (.range first last) anchor → numberOf first < numberOf last →
        numberOf first < maxLine) ∧
    (∀ first last, Written (.range first last) anchor → maxLine ≤ numberOf first →
      matchLinePointer anchor content = .failed .multiLineTargetRangeInvalid) ∧
    ∀ p, Written p anchor → (∃ digits ∈ p.numerals, maxLine < numberOf digits) →
      matchLinePointer anchor content ≠ .lineTarget := by
  refine ⟨⟨?_, ?_⟩, ?_, ?_⟩
  · intro hfails first last hwritten hlt
    apply Nat.lt_of_not_le
    intro hlarge
    have hle := (hfails.order first last hwritten).mp
      ((matchLinePointer_eq_orderFailure_iff hwritten).mpr (Or.inr hlarge))
    omega
  · intro hbelow
    refine ⟨?_, ?_, ?_, ?_, ?_⟩
    · intro first last hwritten
      have hfirst := hbelow first last hwritten
      rw [matchLinePointer_eq_orderFailure_iff hwritten]
      omega
    · intro first last hwritten
      have hfirst := hbelow first last hwritten
      rw [matchLinePointer_eq_lineFailure_iff hwritten h]
      omega
    · intro digits hwritten
      rw [matchLinePointer_line hwritten, lineTarget_eq_failed_iff h]
    · intro hnone hhead
      rw [matchLinePointer_of_not_written hnone, if_pos hhead]
    · intro hnone hhead
      rw [matchLinePointer_of_not_written hnone, if_neg hhead]
  · intro first last hwritten hlarge
    exact (matchLinePointer_eq_orderFailure_iff hwritten).mpr (Or.inr hlarge)
  · rintro p hwritten ⟨digits, hdigits, hlarge⟩ htarget
    obtain ⟨q, hq, hwithin⟩ := (matchLinePointer_eq_lineTarget_iff h).mp htarget
    obtain rfl := hwritten.unique hq
    have hle := hwithin.numberOf_le hdigits
    omega

theorem range_across_largest_line_fails_by_numbers :
    let anchor := "L18446744073709551614-L99999999999999999999=".toList
    let content := "a\n".toList
    content.count '\n' < maxLine ∧ FailsByNumbers anchor content ∧
      matchLinePointer anchor content = .failed .lineTargetFail := by
  intro anchor content
  have hcontent : content.count '\n' < maxLine := by decide
  have hparse : parse? anchor =
      some (.range "18446744073709551614".toList "99999999999999999999".toList) := by
    decide +kernel
  refine ⟨hcontent, (failsByNumbers_iff hcontent).1.mpr ?_, by decide +kernel⟩
  intro first last hwritten _
  have hrange := hwritten.unique (parse?_eq_some_iff.mp hparse)
  obtain ⟨rfl, rfl⟩ := LinePointer.range.inj hrange
  decide +kernel

/-- The numbers of this range are in the right order, and they are cut down to the same one. -/
theorem range_behind_largest_line_not_fails_by_numbers :
    ([] : Text).count '\n' < maxLine ∧
      ¬ FailsByNumbers "L18446744073709551616-L18446744073709551617".toList [] := by
  refine ⟨by decide, fun hfails => ?_⟩
  have hwritten : Written (.range "18446744073709551616".toList "18446744073709551617".toList)
      "L18446744073709551616-L18446744073709551617".toList :=
    parse?_eq_some_iff.mp (by decide +kernel)
  have hlines := (hfails.rangeLines _ _ hwritten).mpr (by decide +kernel)
  exact absurd hlines (by decide +kernel)

end DocLinks.LinePointer
