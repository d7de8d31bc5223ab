import DocLinks.Anchor.LinePointer

namespace DocLinks

theorem hasLines_iff {content : Text} {required : Nat} :
    hasLines content required = true ↔ required ≤ content.count '\n' := by
  induction content generalizing required with
  | nil => cases required <;> simp [hasLines]
  | cons c content ih =>
      cases required with
      | zero => simp [hasLines]
      | succ missing =>
          rw [hasLines, ih, List.count_cons]
          split
          next hc => simp [hc]
          next hc => simp [hc]

namespace LinePointer

/-- Decimal digits without a zero at the front. -/
structure IsNumeral (digits : Text) : Prop where
  isDigit : ∀ c ∈ digits, c.isDigit = true
  front : ∃ c rest, digits = c :: rest ∧ c ≠ '0'

def IsMark (mark : Text) : Prop :=
  mark = [] ∨ mark = ['=']

/-- How line pointers are written. -/
inductive Written : LinePointer → Text → Prop
  | line {digits mark : Text} : IsNumeral digits → IsMark mark →
      Written (.line digits) ('L' :: (digits ++ mark))
  | range {first last mark : Text} : IsNumeral first → IsNumeral last → IsMark mark →
      Written (.range first last) ('L' :: (first ++ '-' :: 'L' :: (last ++ mark)))

theorem Written.head?_eq {p : LinePointer} {anchor : Text} (h : Written p anchor) :
    anchor.head? = some 'L' := by
  cases h <;> rfl

/-- Whether a file with so many newline characters has the lines that are pointed to; a range has
to end behind its start. -/
def Within (newlines : Nat) : LinePointer → Prop
  | .line digits => numberOf digits ≤ newlines
  | .range first last => numberOf first < numberOf last ∧ numberOf last ≤ newlines

theorem isEnd_iff {t : Text} : isEnd t = true ↔ IsMark t := by
  simp [isEnd, IsMark]

theorem readNumber_append {digits rest : Text} (h : IsNumeral digits)
    (hrest : ∀ c ∈ rest.head?, c.isDigit = false) :
    readNumber (digits ++ rest) = some (digits, rest) := by
  have htake : (digits ++ rest).takeWhile Char.isDigit = digits := by
    rw [List.takeWhile_append_of_pos h.isDigit]
    cases rest with
    | nil => simp
    | cons c rest => simp [hrest c rfl]
  have hdrop : (digits ++ rest).dropWhile Char.isDigit = rest := by
    rw [List.dropWhile_append_of_pos h.isDigit]
    cases rest with
    | nil => rfl
    | cons c rest => simp [hrest c rfl]
  obtain ⟨c, tail, hdigits, hzero⟩ := h.front
  have hc : c.isDigit = true := h.isDigit c (hdigits ▸ List.mem_cons_self)
  rw [hdigits, List.cons_append] at htake hdrop ⊢
  simp [readNumber, hc, hzero, htake, hdrop]

theorem readNumber_eq_some {t digits rest : Text} (h : readNumber t = some (digits, rest)) :
    t = digits ++ rest ∧ IsNumeral digits := by
  cases t with
  | nil => simp [readNumber] at h
  | cons c t =>
      rw [readNumber] at h
      split at h
      next hc =>
        obtain ⟨rfl, rfl⟩ := Prod.mk.inj (Option.some.inj h)
        refine ⟨List.takeWhile_append_dropWhile.symm, ?_, ?_⟩
        · exact List.all_eq_true.mp List.all_takeWhile
        · exact ⟨c, t.takeWhile Char.isDigit, List.takeWhile_cons_of_pos hc.1, hc.2⟩
      · simp at h

theorem IsMark.notDigit {mark : Text} (h : IsMark mark) : ∀ c ∈ mark.head?, c.isDigit = false := by
  rcases h with rfl | rfl
  · simp
  · simp [show '='.isDigit = false by decide]

theorem parse?_eq_some_iff {anchor : Text} {p : LinePointer} :
    parse? anchor = some p ↔ Written p anchor := by
  constructor
  · intro h
    unfold parse? at h
    split at h
    next rest =>
      split at h
      · simp at h
      next first tail hfirst =>
        obtain ⟨rfl, hnumeral⟩ := readNumber_eq_some hfirst
        split at h
        next hend =>
          obtain rfl := Option.some.inj h
          exact .line hnumeral (isEnd_iff.mp hend)
        · split at h
          next last =>
            split at h
            next digits mark hlast =>
              obtain ⟨rfl, hdigits⟩ := readNumber_eq_some hlast
              split at h
              next hend =>
                obtain rfl := Option.some.inj h
                exact .range hnumeral hdigits (isEnd_iff.mp hend)
              · simp at h
            · simp at h
          · simp at h
    · simp at h
  · rintro (⟨hdigits, hmark⟩ | @⟨first, last, mark, hfirst, hlast, hmark⟩)
    · simp [parse?, readNumber_append hdigits hmark.notDigit, isEnd_iff.mpr hmark]
    · have hminus : ∀ c ∈ ('-' :: 'L' :: (last ++ mark)).head?, c.isDigit = false := by
        rintro c ⟨rfl⟩
        decide
      have hend : isEnd ('-' :: 'L' :: (last ++ mark)) = false := by
        simp [isEnd]
      simp [parse?, readNumber_append hfirst hminus, hend,
        readNumber_append hlast hmark.notDigit, isEnd_iff.mpr hmark]

theorem lineOf_le_iff {digits : Text} {n : Nat} (h : n < maxLine) :
    lineOf digits ≤ n ↔ numberOf digits ≤ n := by
  rw [lineOf]
  omega

theorem lineTarget_eq_iff {digits content : Text} (h : content.count '\n' < maxLine) :
    lineTarget digits content = .lineTarget ↔ numberOf digits ≤ content.count '\n' := by
  rw [lineTarget, ← lineOf_le_iff h, ← hasLines_iff]
  split
  next hlines => simpa using hlines
  next hlines => simpa using hlines

theorem matchLinePointer_eq_lineTarget_iff {anchor content : Text}
    (h : content.count '\n' < maxLine) :
    matchLinePointer anchor content = .lineTarget ↔
      ∃ p, Written p anchor ∧ p.Within (content.count '\n') := by
  simp only [← parse?_eq_some_iff]
  rw [matchLinePointer]
  split
  next digits hparse => simp [hparse, lineTarget_eq_iff h, Within]
  next first last hparse =>
    simp only [hparse, Option.some.injEq, exists_eq_left', Within]
    split
    next hle =>
      -- Cut down to the largest number, the end of a range is where it was, or beyond every line.
      simp only [reduceCtorEq, false_iff]
      rintro ⟨hlt, hlines⟩
      rw [lineOf, lineOf] at hle
      omega
    next hlt =>
      rw [lineTarget_eq_iff h]
      constructor
      · intro hlines
        rw [lineOf, lineOf] at hlt
        omega
      · exact fun hlines => hlines.2
  next hparse =>
    simp only [hparse, reduceCtorEq, false_and, exists_false, iff_false]
    split <;> simp

theorem matchLinePointer_ne_headingMatch (anchor content : Text) :
    matchLinePointer anchor content ≠ .headingMatch := by
  have htarget : ∀ digits, lineTarget digits content ≠ .headingMatch := by
    intro digits
    rw [lineTarget]
    split <;> simp
  rw [matchLinePointer]
  split
  · exact htarget _
  · split
    · simp
    · exact htarget _
  · split <;> simp

theorem isSuccess_matchLinePointer_iff {anchor content : Text}
    (h : content.count '\n' < maxLine) :
    (matchLinePointer anchor content).isSuccess = true ↔
      ∃ p, Written p anchor ∧ p.Within (content.count '\n') := by
  rw [← matchLinePointer_eq_lineTarget_iff h]
  have hheading := matchLinePointer_ne_headingMatch anchor content
  cases houtcome : matchLinePointer anchor content with
  | headingMatch => exact absurd houtcome hheading
  | lineTarget => simp [AnchorOutcome.isSuccess, AnchorOutcome.error?]
  | failed error => simp [AnchorOutcome.isSuccess, AnchorOutcome.error?]

end LinePointer

end DocLinks
