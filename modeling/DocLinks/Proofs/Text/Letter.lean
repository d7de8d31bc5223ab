import DocLinks.Proofs.Text.Lowercase
import DocLinks.Text.Alphanumeric
import DocLinks.Text.Mark

namespace DocLinks

/-- Whether a single range of the table holds all code points from `first` to `last`. -/
def CharTable.spans (table : CharTable) (first last : Nat) : Bool :=
  table.any fun range => last.ble range.2 && range.1.ble first

theorem CharTable.holds_of_spans {table : CharTable} {first last : Nat}
    (h : table.spans first last = true) {c : Char} (hfirst : first ≤ c.toNat)
    (hlast : c.toNat ≤ last) : table.holds c = true := by
  obtain ⟨range, hmem, hrange⟩ := List.any_eq_true.mp h
  have hbounds : last ≤ range.2 ∧ range.1 ≤ first := by simpa using hrange
  apply List.any_eq_true.mpr
  refine ⟨range, hmem, ?_⟩
  simp only [Bool.and_eq_true, decide_eq_true_eq]
  omega

theorem CharTable.holds_of_forall_lt {table : CharTable} {c : Char}
    (h : ∀ range ∈ table, c.toNat < range.1) : table.holds c = false := by
  apply List.any_eq_false.mpr
  intro range hmem
  have hbefore := h range hmem
  simp only [Bool.and_eq_true, decide_eq_true_eq]
  omega

/-- Whether the images of a run lie before another run, behind it, or between its members. -/
def CharMap.isApart (run other : Nat × Nat × Nat × Nat) : Bool :=
  (run.2.2.2 + (run.2.1 - run.1)).blt other.1 || other.2.1.blt run.2.2.2 ||
    (run.2.2.1.beq 2 || run.1.beq run.2.1) && other.2.2.1.beq 2 &&
      ((run.2.2.2 + other.1) % 2).beq 1

namespace Text

theorem isMark_of_isAscii (c : Char) (hc : isAscii c = true) : isMark c = false := by
  have hbeyond : ∀ range ∈ markTable, 0x80 ≤ range.1 := by decide +kernel
  apply CharTable.holds_of_forall_lt
  exact fun range hmem => Nat.lt_of_lt_of_le (of_decide_eq_true hc) (hbeyond range hmem)

theorem isAlphanumeric_of_isAscii (c : Char) (hc : isAscii c = true) :
    isAlphanumeric c = c.isAlphanum := by
  have hascii : ∀ c, isAscii c = true →
      CharTable.holds (alphanumericTable.take 3) c = c.isAlphanum := by
    apply forall_isAscii
    decide +kernel
  have hbeyond : ∀ range ∈ alphanumericTable.drop 3, 0x80 ≤ range.1 := by decide +kernel
  have hrest : CharTable.holds (alphanumericTable.drop 3) c = false := by
    apply CharTable.holds_of_forall_lt
    exact fun range hmem => Nat.lt_of_lt_of_le (of_decide_eq_true hc) (hbeyond range hmem)
  rw [isAlphanumeric, ← List.take_append_drop 3 alphanumericTable, CharTable.holds, List.any_append]
  change (CharTable.holds _ c || CharTable.holds _ c) = _
  rw [hascii c hc, hrest, Bool.or_false]

theorem lowercaseRuns_isApart :
    (lowercaseRuns.all fun run => lowercaseRuns.all (CharMap.isApart run)) = true := by
  decide +kernel

theorem lowercaseRuns_isApart_dotted :
    (lowercaseRuns.all fun run => CharMap.isApart run (0x130, 0x130, 1, 0)) = true := by
  decide +kernel

theorem spans_images :
    (lowercaseRuns.all fun run =>
      alphanumericTable.spans run.2.2.2 (run.2.2.2 + (run.2.1 - run.1))) = true := by
  decide +kernel

theorem spans_members :
    (lowercaseRuns.all fun run =>
      run == (0x1f59, 0x1f5f, 2, 0x1f51) || alphanumericTable.spans run.1 run.2.1) = true := by
  decide +kernel

theorem apply_lowercaseRuns_idem (n : Nat) :
    lowercaseRuns.apply (lowercaseRuns.apply n) = lowercaseRuns.apply n := by
  rcases CharMap.apply_cases lowercaseRuns n with hsame |
    ⟨first, last, step, image, hmem, hfirst, hlast, hstep, himage⟩
  · rw [hsame, hsame]
  · rw [himage]
    rcases CharMap.apply_cases lowercaseRuns (image + (n - first)) with hsame |
      ⟨first', last', step', image', hmem', hfirst', hlast', hstep', _⟩
    · exact hsame
    · have hapart : image + (last - first) < first' ∨ last' < image ∨
          (step = 2 ∨ first = last) ∧ step' = 2 ∧ (image + first') % 2 = 1 := by
        have hrun := List.all_eq_true.mp (List.all_eq_true.mp lowercaseRuns_isApart _ hmem) _ hmem'
        simpa [CharMap.isApart, and_assoc, or_assoc] using hrun
      rcases hapart with hbefore | hbehind | ⟨hrun, rfl, hodd⟩
      · omega
      · omega
      · rcases hrun with rfl | rfl <;> omega

theorem isValidChar_apply_lowercaseRuns (c : Char) :
    (lowercaseRuns.apply c.toNat).isValidChar := by
  by_cases hcode : 0x80 ≤ c.toNat
  · rcases apply_lowercaseRuns_beyond_ascii hcode c.valid with hletter | ⟨_, hvalid⟩
    · rw [hletter]
      decide
    · exact hvalid
  · rw [apply_lowercaseRuns_of_ascii (Nat.lt_of_not_le hcode), Nat.isValidChar]
    split <;> omega

theorem apply_lowercaseRuns_ne_dotted {n : Nat} (hn : n ≠ 0x130) :
    lowercaseRuns.apply n ≠ 0x130 := by
  rcases CharMap.apply_cases lowercaseRuns n with hsame |
    ⟨first, last, step, image, hmem, hfirst, hlast, _, himage⟩
  · rwa [hsame]
  · have hapart : image + (last - first) < 0x130 ∨ 0x130 < image := by
      simpa [CharMap.isApart] using List.all_eq_true.mp lowercaseRuns_isApart_dotted _ hmem
    omega

theorem lowercaseChar_of_mem_lowercaseChar {c d : Char} (hd : d ∈ lowercaseChar c) :
    lowercaseChar d = [d] := by
  by_cases hc : c = 'İ'
  · have hfixed : ((lowercaseChar 'İ').all fun d => lowercaseChar d == [d]) = true := by
      decide +kernel
    exact beq_iff_eq.mp (List.all_eq_true.mp hfixed d (hc ▸ hd))
  · rw [lowercaseChar, if_neg hc, List.mem_singleton] at hd
    have htoNat : d.toNat = lowercaseRuns.apply c.toNat := by
      rw [hd, Char.ofNat, dif_pos (isValidChar_apply_lowercaseRuns c)]
      rfl
    have hcode : c.toNat ≠ 0x130 := fun h => hc (Char.toNat_inj.mp h)
    have hdotted : d ≠ 'İ' := by
      rintro rfl
      exact apply_lowercaseRuns_ne_dotted hcode htoNat.symm
    rw [lowercaseChar, if_neg hdotted, htoNat, apply_lowercaseRuns_idem, ← htoNat,
      Char.ofNat_toNat]

theorem lowercaseChar_cases (c : Char) :
    lowercaseChar c = [c] ∨
      isAlphanumeric c = true ∧
        ∀ d ∈ lowercaseChar c, isAlphanumeric d = true ∨ isMark d = true := by
  by_cases hc : c = 'İ'
  · have hletters : isAlphanumeric 'İ' = true ∧
        ((lowercaseChar 'İ').all fun d => isAlphanumeric d || isMark d) = true := by
      decide +kernel
    right
    rw [hc]
    refine ⟨hletters.1, fun d hd => ?_⟩
    rw [← Bool.or_eq_true]
    exact List.all_eq_true.mp hletters.2 d hd
  · rw [lowercaseChar, if_neg hc]
    rcases CharMap.apply_cases lowercaseRuns c.toNat with hsame |
      ⟨first, last, step, image, hmem, hfirst, hlast, hstep, himage⟩
    · left
      rw [hsame, Char.ofNat_toNat]
    · right
      constructor
      · have hmembers : (first, last, step, image) = (0x1f59, 0x1f5f, 2, 0x1f51) ∨
            alphanumericTable.spans first last = true := by
          simpa using List.all_eq_true.mp spans_members _ hmem
        rcases hmembers with hrun | hspans
        · obtain ⟨rfl, rfl, rfl, _⟩ :
              first = 0x1f59 ∧ last = 0x1f5f ∧ step = 2 ∧ image = 0x1f51 := by
            simpa using hrun
          have hcode : c.toNat = 0x1f59 ∨ c.toNat = 0x1f5b ∨ c.toNat = 0x1f5d ∨
              c.toNat = 0x1f5f := by
            omega
          rw [isAlphanumeric, CharTable.holds]
          rcases hcode with hcode | hcode | hcode | hcode <;> rw [hcode] <;> decide +kernel
        · exact CharTable.holds_of_spans hspans hfirst hlast
      · intro d hd
        left
        have hvalid := isValidChar_apply_lowercaseRuns c
        have htoNat : d.toNat = image + (c.toNat - first) := by
          rw [List.mem_singleton.mp hd, Char.ofNat, dif_pos hvalid, ← himage]
          rfl
        have hspans := List.all_eq_true.mp spans_images _ hmem
        exact CharTable.holds_of_spans hspans (by simp; omega) (by simp; omega)

end Text

end DocLinks
