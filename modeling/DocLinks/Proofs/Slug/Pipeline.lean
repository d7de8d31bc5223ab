import DocLinks.Proofs.Slug.Alphabet
import DocLinks.Proofs.Text.Run

/-!
The plain slug in stages. One pass hyphenates, collapses and trims at once; the same slug comes of
the words of the lowercase text joined by hyphens, and of replacing, collapsing and trimming one
after the other. A space between two texts is a hyphen between their slugs.
-/

namespace DocLinks.Slug

open Text

/-- The characters of the words of a plain slug: small letters of ASCII, digits and the
underscore. -/
def isSmallWord (c : Char) : Bool :=
  c.isLower || c.isDigit || c == '_'

/-- The character itself where a slug keeps it, and a hyphen in the place of any other. -/
def hyphenOr (c : Char) : Char :=
  if isWord c || c == '-' then c else '-'

theorem isWord_iff {c : Char} : isWord c = true ↔ c.isUpper = true ∨ isSmallWord c = true := by
  have hword : isWord c = (c.isUpper || c.isLower || c.isDigit || c == '_') := rfl
  simp [hword, isSmallWord, or_assoc]

theorem beq_hyphen_of_isWord {c : Char} (h : isWord c = true) : (c == '-') = false := by
  rw [beq_eq_false_iff_ne]
  rintro rfl
  exact absurd h (by decide)

theorem isWord_eq_isSmallWord_of_mem_lowercase {t : Text} {c : Char} (h : c ∈ lowercase t) :
    isWord c = isSmallWord c := by
  obtain ⟨d, _, hc⟩ := List.mem_flatMap.mp h
  rw [Bool.eq_iff_iff]
  constructor
  · intro hword
    have hanchor := isAnchorChar_of_mem_lowercaseChar hc hword
    rcases (Bool.or_eq_true _ _).mp hanchor with hsmall | hhyphen
    · exact hsmall
    · exact absurd ((beq_hyphen_of_isWord hword).symm.trans hhyphen) (by decide)
  · exact fun hsmall => isWord_iff.mpr (Or.inr hsmall)

theorem hyphenate_append_of_forall {w : Text} (hne : w ≠ []) (h : ∀ c ∈ w, isWord c = true)
    (afterHyphen : Bool) (t : Text) :
    hyphenate afterHyphen (w ++ t) = w ++ hyphenate false t := by
  induction w generalizing afterHyphen with
  | nil => exact absurd rfl hne
  | cons c w ih =>
      obtain ⟨hc, hw⟩ := List.forall_mem_cons.mp h
      rw [List.cons_append, hyphenate, if_pos hc]
      by_cases hnil : w = []
      · rw [hnil]
        rfl
      · rw [ih hnil hw false, List.cons_append]

theorem hyphenate_of_not_isWord {c : Char} (hc : isWord c = false) (afterHyphen : Bool) (t : Text) :
    hyphenate afterHyphen (c :: t) = (if afterHyphen then [] else ['-']) ++ hyphenate true t := by
  rw [hyphenate, if_neg (by simp [hc])]
  cases afterHyphen <;> rfl

theorem dropWhile_hyphenate (afterHyphen : Bool) (t : Text) :
    (hyphenate afterHyphen t).dropWhile (· == '-') = hyphenate true t := by
  induction t generalizing afterHyphen with
  | nil => rfl
  | cons c t ih =>
      cases hc : isWord c with
      | true =>
          simp [hyphenate, hc, beq_hyphen_of_isWord hc]
      | false =>
          rw [hyphenate_of_not_isWord hc, hyphenate_of_not_isWord hc]
          cases afterHyphen <;> simp [ih]

theorem dropEndWhile_of_isWord {w : Text} (h : ∀ c ∈ w, isWord c = true) :
    dropEndWhile (· == '-') w = w :=
  dropEndWhile_of_forall fun c hc => beq_hyphen_of_isWord (h c hc)

theorem dropEndWhile_hyphenate (t : Text) :
    dropEndWhile (· == '-') (hyphenate true t) = join ['-'] (runsOf isWord t) := by
  induction t using run_induction (p := isWord) with
  | run w hw =>
      by_cases hne : w = []
      · rw [hne]
        rfl
      · have hword := hyphenate_append_of_forall hne hw true []
        rw [List.append_nil] at hword
        rw [hword, hyphenate, List.append_nil, dropEndWhile_of_isWord hw, runsOf_of_forall hne hw,
          join]
  | next w c rest hw hc ih =>
      rw [runsOf_append_cons w rest hc]
      by_cases hne : w = []
      · rw [hne, List.nil_append, hyphenate_of_not_isWord hc, runsOf_nil]
        exact ih
      · have hruns : ∀ run ∈ runsOf isWord rest, run ≠ [] := fun run => ne_nil_of_mem_runsOf
        have hempty := join_eq_nil_iff ['-'] hruns
        rw [hyphenate_append_of_forall hne hw, hyphenate_of_not_isWord hc, runsOf_of_forall hne hw]
        rw [dropEndWhile_append, dropEndWhile_append, ih]
        by_cases hrest : runsOf isWord rest = []
        · have hhyphen : dropEndWhile (· == '-') ['-'] = [] := rfl
          simp [hrest, join, hhyphen, dropEndWhile_of_isWord hw]
        · have hjoin := mt hempty.mp hrest
          rw [if_neg hjoin, join_append (by simp) hrest]
          simp [join]

theorem hyphenate_eq_join_runsOf (t : Text) :
    trimWhile (· == '-') (hyphenate false t) = join ['-'] (runsOf isWord t) := by
  rw [trimWhile, dropWhile_hyphenate, dropEndWhile_hyphenate]

theorem plain_eq_join_runsOf (t : Text) :
    plain t = join ['-'] (runsOf isSmallWord (lowercase t)) := by
  rw [plain, hyphenate_eq_join_runsOf]
  exact congrArg _ (runsOf_congr fun c => isWord_eq_isSmallWord_of_mem_lowercase)

theorem hyphenOr_of_not_isWord {c : Char} (hc : isWord c = false) : hyphenOr c = '-' := by
  by_cases hhyphen : c = '-' <;> simp [hyphenOr, hc, hhyphen]

/-- The invariant of the pass: what it writes behind a character is what is left of the replaced
characters when runs of hyphens are reduced, beginning at that character. -/
theorem destutter'_hyphenOr (c : Char) (t : Text) :
    (t.map hyphenOr).destutter' (fun a b => ¬(a = '-' ∧ b = '-')) c =
      c :: hyphenate (c == '-') t := by
  induction t generalizing c with
  | nil => rfl
  | cons d t ih =>
      rw [List.map_cons]
      cases hd : isWord d with
      | true =>
          have hne := beq_hyphen_of_isWord hd
          have hkept : hyphenOr d = d := by simp [hyphenOr, hd]
          have hnext : ¬(c = '-' ∧ d = '-') := fun h => by simp [h.2] at hne
          rw [hkept, List.destutter'_cons_pos _ hnext, ih, hne]
          simp [hyphenate, hd]
      | false =>
          rw [hyphenOr_of_not_isWord hd, hyphenate_of_not_isWord hd]
          by_cases hc : c = '-'
          · rw [List.destutter'_cons_neg _ (by simp [hc]), ih]
            simp [hc]
          · rw [List.destutter'_cons_pos _ (by simp [hc]), ih]
            simp [hc]

theorem hyphenate_eq_collapse (t : Text) :
    hyphenate false t = collapse '-' (t.map hyphenOr) := by
  cases t with
  | nil => rfl
  | cons c t =>
      rw [collapse, List.map_cons, List.destutter_cons', destutter'_hyphenOr]
      cases hc : isWord c with
      | true =>
          simp [hyphenate, hyphenOr, hc, beq_hyphen_of_isWord hc]
      | false =>
          rw [hyphenOr_of_not_isWord hc, hyphenate_of_not_isWord hc]
          rfl

theorem plain_eq_trimWhile_collapse (t : Text) :
    plain t = trimWhile (· == '-') (collapse '-' ((lowercase t).map hyphenOr)) := by
  rw [plain, hyphenate_eq_collapse]

/-- The plain slug by its two descriptions in stages, and the slug of two texts with a space
between them. -/
theorem plain_eq_stages :
    (∀ t, plain t = join ['-'] (runsOf isSmallWord (lowercase t))) ∧
      (∀ t, plain t = trimWhile (· == '-') (collapse '-' ((lowercase t).map hyphenOr))) ∧
      ∀ s t, plain (s ++ ' ' :: t) = join ['-'] ([plain s, plain t].filter (· ≠ [])) := by
  refine ⟨plain_eq_join_runsOf, plain_eq_trimWhile_collapse, ?_⟩
  intro s t
  have hlowercase : lowercase (s ++ ' ' :: t) = lowercase s ++ ' ' :: lowercase t := by
    have hspace : lowercaseChar ' ' = [' '] := lowercaseChar_of_isAscii ' ' (by decide)
    rw [lowercase, List.flatMap_append, List.flatMap_cons, hspace]
    rfl
  have hseparator : isSmallWord ' ' = false := by decide
  rw [plain_eq_join_runsOf, hlowercase, runsOf_append_cons _ _ hseparator,
    plain_eq_join_runsOf s, plain_eq_join_runsOf t]
  exact join_append_eq_join_pair _ (fun run => ne_nil_of_mem_runsOf) fun run => ne_nil_of_mem_runsOf

example : plain "İx - _Y_".toList = "i-x-_y_".toList := by
  decide +kernel

end DocLinks.Slug
