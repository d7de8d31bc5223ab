import DocLinks.Proofs.Slug.Alphabet
import DocLinks.Proofs.Text.Letter

/-!
The hub slug in stages. Each character is looked at before it becomes lowercase; the slug is the
same when the whole text becomes lowercase first, because no character gains or loses its place in
a slug by that.
-/

namespace DocLinks.Slug

open Text

/-- What a hub slug keeps: letters, digits and marks of every script, the underscore and the
hyphen. -/
def isKept (c : Char) : Bool :=
  isAlphanumeric c || isMark c || c == '_' || c == '-'

/-- The stages behind lowercase: characters that are neither kept nor spaces are dropped, and
spaces become hyphens. -/
def dropAndHyphenate (t : Text) : Text :=
  (t.filter fun c => isKept c || c == ' ').map fun c => if c = ' ' then '-' else c

theorem isKept_of_letter {c : Char} (h : isAlphanumeric c = true ∨ isMark c = true) :
    isKept c = true := by
  rcases h with h | h <;> simp [isKept, h]

theorem isKept_of_not_isAscii {c : Char} (hc : isAscii c = false) :
    isKept c = (isAlphanumeric c || isMark c) := by
  rw [isKept, beq_eq_false_of_isAscii hc (by decide), beq_eq_false_of_isAscii hc (by decide),
    Bool.or_false, Bool.or_false]

theorem dropAndHyphenate_of_isKept {t : Text} (h : ∀ c ∈ t, isKept c = true) :
    dropAndHyphenate t = t := by
  have hspace : isKept ' ' = false := by decide +kernel
  have hfilter : t.filter (fun c => isKept c || c == ' ') = t :=
    List.filter_eq_self.mpr fun c hc => by simp [h c hc]
  rw [dropAndHyphenate, hfilter]
  apply (List.map_congr_left fun c hc => ?_).trans (List.map_id' t)
  apply if_neg
  rintro rfl
  exact absurd (h ' ' hc) (by simp [hspace])

theorem dropAndHyphenate_singleton_of_isAscii (c : Char) (hc : isAscii c = true) :
    dropAndHyphenate [c] =
      if c.isAlphanum || c == '_' || c == '-' then [c] else if c = ' ' then ['-'] else [] := by
  have hkept : isKept c = (c.isAlphanum || c == '_' || c == '-') := by
    rw [isKept, isAlphanumeric_of_isAscii c hc, isMark_of_isAscii c hc, Bool.or_false]
  rw [← hkept]
  cases h : isKept c with
  | true => exact dropAndHyphenate_of_isKept (by simpa using h)
  | false => by_cases hspace : c = ' ' <;> simp [dropAndHyphenate, h, hspace]

theorem hubChar_of_isAscii (c : Char) (hc : isAscii c = true) :
    hubChar c = dropAndHyphenate [c.toLower] ∧ ∀ d ∈ hubChar c, hubChar d = [d] := by
  have hcases : ∀ c, isAscii c = true → isAscii c.toLower = true ∧
      (hubChar c = if c.toLower.isAlphanum || c.toLower == '_' || c.toLower == '-' then [c.toLower]
        else if c.toLower = ' ' then ['-'] else []) ∧
        ((hubChar c).all fun d => hubChar d == [d]) = true := by
    apply forall_isAscii
    decide +kernel
  obtain ⟨hlower, hhub, hfixed⟩ := hcases c hc
  rw [dropAndHyphenate_singleton_of_isAscii _ hlower]
  exact ⟨hhub, fun d hd => beq_iff_eq.mp (List.all_eq_true.mp hfixed d hd)⟩

theorem hubChar_eq (c : Char) : hubChar c = dropAndHyphenate (lowercaseChar c) := by
  cases hc : isAscii c with
  | true => rw [lowercaseChar_of_isAscii c hc, (hubChar_of_isAscii c hc).1]
  | false =>
      rw [hubChar_of_not_isAscii hc, ← isKept_of_not_isAscii hc]
      rcases lowercaseChar_cases c with hsame | ⟨hletter, hletters⟩
      · have hspace : (c == ' ') = false := by
          rw [beq_eq_false_iff_ne]
          rintro rfl
          exact absurd hc (by decide)
        cases hkept : isKept c with
        | true => rw [if_pos rfl, hsame, dropAndHyphenate_of_isKept (by simpa using hkept)]
        | false => simp [hsame, dropAndHyphenate, hkept, hspace]
      · rw [if_pos (isKept_of_letter (Or.inl hletter)),
          dropAndHyphenate_of_isKept fun d hd => isKept_of_letter (hletters d hd)]

theorem hubChar_of_mem_hubChar {c d : Char} (hd : d ∈ hubChar c) : hubChar d = [d] := by
  cases hc : isAscii c with
  | true => exact (hubChar_of_isAscii c hc).2 d hd
  | false =>
      rw [hubChar_of_not_isAscii hc] at hd
      split at hd
      next hkept =>
        rw [hubChar_eq, lowercaseChar_of_mem_lowercaseChar hd]
        apply dropAndHyphenate_of_isKept
        rw [List.forall_mem_singleton]
        rcases lowercaseChar_cases c with hsame | ⟨_, hletters⟩
        · rw [hsame, List.mem_singleton] at hd
          rw [hd, isKept_of_not_isAscii hc, hkept]
        · exact isKept_of_letter (hletters d hd)
      next => simp at hd

/-- The hub slug is that of the lowercase text, whose characters are dropped or kept and whose
spaces become hyphens, and it is its own hub slug. -/
theorem hub_eq_dropAndHyphenate_lowercase :
    (∀ t, hub t = dropAndHyphenate (lowercase t)) ∧ ∀ t, hub (hub t) = hub t := by
  constructor
  · intro t
    rw [hub, lowercase, dropAndHyphenate, List.filter_flatMap, List.map_flatMap]
    exact List.flatMap_congr fun c _ => hubChar_eq c
  · intro t
    have hfixed : ∀ d ∈ hub t, hubChar d = [d] := by
      intro d hd
      obtain ⟨c, _, hdc⟩ := List.mem_flatMap.mp hd
      exact hubChar_of_mem_hubChar hdc
    rw [hub, List.flatMap_congr hfixed]
    exact List.flatMap_singleton' _

end DocLinks.Slug
