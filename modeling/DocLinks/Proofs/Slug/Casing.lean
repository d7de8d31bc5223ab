import DocLinks.Proofs.Slug.Hub
import DocLinks.Proofs.Text.Casing

namespace DocLinks.Slug

open Text

/-- A final sigma as a small one. -/
def smallSigma (c : Char) : Char :=
  if c = 'ς' then 'σ' else c

theorem hub_append (s t : Text) : hub (s ++ t) = hub s ++ hub t :=
  List.flatMap_append

theorem hub_lowercaseChar (c : Char) : hub (lowercaseChar c) = hubChar c := by
  have hchars : ∀ d ∈ lowercaseChar c, hubChar d = dropAndHyphenate [d] := by
    intro d hd
    rw [hubChar_eq, lowercaseChar_of_mem_lowercaseChar hd]
  calc
    hub (lowercaseChar c) = (lowercaseChar c).flatMap fun d => dropAndHyphenate [d] :=
      List.flatMap_congr hchars
    _ = dropAndHyphenate ((lowercaseChar c).flatMap fun d => [d]) := by
      simp only [dropAndHyphenate, List.filter_flatMap, List.map_flatMap]
    _ = dropAndHyphenate (lowercaseChar c) := by rw [List.flatMap_singleton']
    _ = hubChar c := (hubChar_eq c).symm

theorem hub_lowercase (t : Text) : hub (lowercase t) = hub t := by
  rw [lowercase, hub, List.flatMap_assoc]
  exact List.flatMap_congr fun c _ => hub_lowercaseChar c

theorem hub_lowercaseBehind_cons (before : Text) (c : Char) (rest : Text) :
    hub (lowercaseBehind before (c :: rest)) =
      (if c = 'Σ' ∧ endsWord before rest then ['ς'] else hubChar c) ++
        hub (lowercaseBehind (before ++ [c]) rest) := by
  have hfinal : hub ['ς'] = ['ς'] := by decide +kernel
  rw [lowercaseBehind, hub_append]
  split
  · rw [hfinal]
  · rw [hub_lowercaseChar]

theorem hubChar_capitalSigma : hubChar 'Σ' = ['σ'] := by
  decide +kernel

theorem map_smallSigma_hub_lowercaseBehind (before t : Text) :
    (hub (lowercaseBehind before t)).map smallSigma = (hub t).map smallSigma := by
  induction t generalizing before with
  | nil => rfl
  | cons c rest ih =>
      rw [hub_lowercaseBehind_cons, List.map_append, ih]
      change _ = (hubChar c ++ hub rest).map smallSigma
      rw [List.map_append]
      split
      next hsigma =>
        rw [hsigma.1, hubChar_capitalSigma]
        rfl
      next => rfl

/-- The induction moves characters to the text in front, where they decide which sigma is final.
-/
theorem hub_lowercaseBehind_eq_iff (before t : Text) :
    hub (lowercaseBehind before t) = hub t ↔
      ∀ front behind, t = front ++ 'Σ' :: behind → endsWord (before ++ front) behind = false := by
  induction t generalizing before with
  | nil => simp [lowercaseBehind]
  | cons c rest ih =>
      rw [hub_lowercaseBehind_cons]
      change _ = hubChar c ++ hub rest ↔ _
      split
      next hsigma =>
        obtain ⟨rfl, hend⟩ := hsigma
        constructor
        · intro hsame
          rw [hubChar_capitalSigma] at hsame
          exact absurd (List.cons.inj hsame).1 (by decide)
        · intro hnone
          have hnot := hnone [] rest rfl
          rw [List.append_nil, hend] at hnot
          cases hnot
      next hsmall =>
        rw [List.append_cancel_left_eq, ih]
        constructor
        · intro hrest front behind hsplit
          cases front with
          | nil =>
              obtain ⟨rfl, rfl⟩ := List.cons.inj hsplit
              rw [List.append_nil]
              exact Bool.eq_false_iff.mpr fun hend => hsmall ⟨rfl, hend⟩
          | cons d front =>
              obtain ⟨rfl, hbehind⟩ := List.cons.inj hsplit
              rw [List.append_cons]
              exact hrest front behind hbehind
        · intro hall front behind hsplit
          rw [← List.append_cons]
          exact hall (c :: front) behind (congrArg (c :: ·) hsplit)

/-- The hub slug is the same when every character becomes lowercase before. When the text becomes
lowercase as a whole before, it is the same up to the form of small sigmas, and it is the same
without exception just when no capital sigma ends a word. -/
theorem hub_lowercaseWhole_eq_iff (t : Text) :
    hub (lowercase t) = hub t ∧
      (hub (lowercaseWhole t)).map smallSigma = (hub t).map smallSigma ∧
      (hub (lowercaseWhole t) = hub t ↔ ¬HasFinalSigma t) := by
  refine ⟨hub_lowercase t, map_smallSigma_hub_lowercaseBehind [] t, ?_⟩
  rw [lowercaseWhole, hub_lowercaseBehind_eq_iff]
  constructor
  · rintro hnone ⟨before, behind, hsplit, hend⟩
    have hnot := hnone before behind hsplit
    rw [List.nil_append, hend] at hnot
    cases hnot
  · intro hnone front behind hsplit
    rw [List.nil_append]
    exact Bool.eq_false_iff.mpr fun hend => hnone ⟨front, behind, hsplit, hend⟩

/-- The lowercase of a Greek word in capitals ends in a final sigma, and its slug does not. -/
theorem hub_ne_of_final_sigma :
    let t := "ΟΔΟΣ".toList
    lowercaseWhole t = "οδος".toList ∧ hub (lowercaseWhole t) = "οδος".toList ∧
      hub t = "οδοσ".toList ∧ hub t ≠ hub (lowercaseWhole t) := by
  decide +kernel

end DocLinks.Slug
