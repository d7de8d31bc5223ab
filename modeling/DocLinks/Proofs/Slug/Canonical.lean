import DocLinks.Proofs.Slug.Pipeline
import Mathlib.Data.Set.Operations

namespace DocLinks.Slug

open Text

structure IsCanonical (s : Text) : Prop where
  alphabet : ∀ c ∈ s, isAnchorChar c = true
  head : s.head? ≠ some '-'
  last : s.getLast? ≠ some '-'
  single : ¬['-', '-'] <:+: s

theorem isWord_or_of_isAnchorChar {c : Char} (h : isAnchorChar c = true) :
    isWord c = true ∨ c = '-' := by
  rcases (Bool.or_eq_true _ _).mp h with hsmall | hhyphen
  · exact Or.inl (isWord_iff.mpr (Or.inr hsmall))
  · exact Or.inr (beq_iff_eq.mp hhyphen)

theorem hyphenOr_of_isAnchorChar {c : Char} (h : isAnchorChar c = true) : hyphenOr c = c := by
  rcases isWord_or_of_isAnchorChar h with hword | rfl
  · simp [hyphenOr, hword]
  · rfl

theorem lowercaseChar_of_isAnchorChar {c : Char} (h : isAnchorChar c = true) :
    lowercaseChar c = [c] := by
  have hfixed : ∀ c, isAscii c = true → isAnchorChar c = true → c.toLower = c := by
    apply forall_isAscii
    decide +kernel
  have hascii : isAscii c = true := by
    rcases isWord_or_of_isAnchorChar h with hword | rfl
    · exact isAscii_of_isWord hword
    · decide
  rw [lowercaseChar_of_isAscii c hascii, hfixed c hascii h]

theorem isCanonical_plain (t : Text) : IsCanonical (plain t) := by
  refine ⟨fun c => isAnchorChar_of_mem_plain, ?_, ?_, ?_⟩
  · exact head?_trimWhile _ rfl
  · exact getLast?_trimWhile _ rfl
  · rw [plain_eq_trimWhile_collapse]
    intro hpair
    have hchain := List.isChain_destutter (fun a b => ¬(a = '-' ∧ b = '-'))
      ((lowercase t).map hyphenOr)
    exact isChain_iff_not_isInfix.mp hchain (hpair.trans (trimWhile_isInfix _))

namespace IsCanonical

variable {s : Text}

theorem plain_eq (h : IsCanonical s) : plain s = s := by
  have hlowercase : lowercase s = s := by
    rw [lowercase, List.flatMap_congr fun c hc => lowercaseChar_of_isAnchorChar (h.alphabet c hc)]
    exact List.flatMap_singleton' s
  have hkept : s.map hyphenOr = s := by
    rw [List.map_congr_left fun c hc => hyphenOr_of_isAnchorChar (h.alphabet c hc)]
    exact List.map_id' s
  have hcollapse : collapse '-' s = s :=
    List.destutter_of_isChain _ _ (isChain_iff_not_isInfix.mpr h.single)
  rw [plain_eq_trimWhile_collapse, hlowercase, hkept, hcollapse]
  apply trimWhile_eq_self
  · intro c hc
    rw [beq_eq_false_iff_ne]
    rintro rfl
    exact h.head hc
  · intro c hc
    rw [beq_eq_false_iff_ne]
    rintro rfl
    exact h.last hc

end IsCanonical

/-- Slugging is a retraction onto the canonical slugs. -/
theorem plain_retracts :
    (∀ t, IsCanonical (plain t)) ∧ (∀ s, plain s = s ↔ IsCanonical s) ∧
      (∀ t, plain (plain t) = plain t) ∧ Set.range plain = {s | IsCanonical s} := by
  refine ⟨isCanonical_plain, ?_, ?_, ?_⟩
  · intro s
    constructor
    · intro hs
      rw [← hs]
      exact isCanonical_plain s
    · exact IsCanonical.plain_eq
  · intro t
    exact (isCanonical_plain t).plain_eq
  · ext s
    constructor
    · rintro ⟨t, rfl⟩
      exact isCanonical_plain t
    · intro hs
      exact ⟨s, hs.plain_eq⟩

end DocLinks.Slug
