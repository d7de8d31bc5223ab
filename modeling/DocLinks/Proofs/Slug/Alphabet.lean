import DocLinks.Proofs.Slug.Uniqueness
import DocLinks.Proofs.Text.Lowercase

namespace DocLinks

/-- The ASCII characters of anchors: small letters, digits, the underscore and the hyphen. -/
def isAnchorChar (c : Char) : Bool :=
  c.isLower || c.isDigit || c == '_' || c == '-'

def SlugStyle.Allows (style : SlugStyle) (c : Char) : Prop :=
  isAnchorChar c = true ∨ style = .hub ∧ Text.isAscii c = false

theorem SlugStyle.Allows.isAnchorChar {style : SlugStyle} {c : Char} (h : style.Allows c)
    (hc : Text.isAscii c = true ∨ style = .plain) : isAnchorChar c = true := by
  rcases h with hallowed | ⟨rfl, hbeyond⟩
  · exact hallowed
  · rcases hc with hascii | hplain
    · exact absurd (hascii.symm.trans hbeyond) (by decide)
    · exact absurd hplain (by decide)

theorem Text.mem_of_mem_trimWhile {p : Char → Bool} {t : Text} {c : Char}
    (h : c ∈ trimWhile p t) : c ∈ t := by
  rw [trimWhile, dropEndWhile, List.mem_reverse] at h
  have hdropped : c ∈ t.dropWhile p := List.mem_reverse.mp ((List.dropWhile_suffix _).subset h)
  exact (List.dropWhile_suffix _).subset hdropped

theorem Text.isAscii_of_isAlphanum {c : Char} (h : c.isAlphanum = true) : isAscii c = true := by
  have hbelow : ∀ bound : UInt32, bound.toNat < 0x80 → c.val ≤ bound → isAscii c = true := by
    intro bound hbound hle
    exact decide_eq_true (Nat.lt_of_le_of_lt (UInt32.le_iff_toNat_le.mp hle) hbound)
  have hcases : ((c.isUpper || c.isLower) || c.isDigit) = true := h
  rcases (Bool.or_eq_true _ _).mp hcases with hletter | hdigit
  · rcases (Bool.or_eq_true _ _).mp hletter with hupper | hlower
    · exact hbelow 0x5a (by decide) (of_decide_eq_true hupper).2
    · exact hbelow 0x7a (by decide) (of_decide_eq_true ((Bool.and_eq_true _ _).mp hlower).2)
  · exact hbelow 0x39 (by decide) (of_decide_eq_true ((Bool.and_eq_true _ _).mp hdigit).2)

theorem Text.beq_eq_false_of_isAscii {c d : Char} (hc : isAscii c = false)
    (hd : isAscii d = true) : (c == d) = false := by
  rw [beq_eq_false_iff_ne]
  rintro rfl
  exact absurd (hd.symm.trans hc) (by decide)

namespace Slug

theorem isAscii_of_isWord {c : Char} (h : isWord c = true) : Text.isAscii c = true := by
  rcases (Bool.or_eq_true _ _).mp h with hletter | hunderscore
  · exact Text.isAscii_of_isAlphanum hletter
  · rw [beq_iff_eq.mp hunderscore]
    decide

theorem isAnchorChar_of_mem_lowercaseChar {c d : Char} (hd : d ∈ Text.lowercaseChar c)
    (hword : isWord d = true) : isAnchorChar d = true := by
  cases hc : Text.isAscii c with
  | true =>
      have hlower : ∀ c, Text.isAscii c = true → isWord c.toLower = true →
          isAnchorChar c.toLower = true := by
        apply Text.forall_isAscii
        decide +kernel
      rw [Text.lowercaseChar_of_isAscii c hc, List.mem_singleton] at hd
      exact hd ▸ hlower c hc (hd ▸ hword)
  | false =>
      have hlower := Text.isLower_of_mem_lowercaseChar hc hd (isAscii_of_isWord hword)
      simp [isAnchorChar, hlower]

theorem mem_hyphenate {afterHyphen : Bool} {t : Text} {c : Char}
    (h : c ∈ hyphenate afterHyphen t) : c = '-' ∨ c ∈ t ∧ isWord c = true := by
  induction t generalizing afterHyphen with
  | nil => simp [hyphenate] at h
  | cons d rest ih =>
      have hrest : ∀ {after}, c ∈ hyphenate after rest →
          c = '-' ∨ c ∈ d :: rest ∧ isWord c = true := by
        intro after hmem
        exact (ih hmem).imp_right fun hc => ⟨List.mem_cons_of_mem _ hc.1, hc.2⟩
      rw [hyphenate] at h
      split at h
      next hword =>
        rcases List.mem_cons.mp h with rfl | h
        · exact Or.inr ⟨List.mem_cons_self, hword⟩
        · exact hrest h
      next =>
        split at h
        · exact hrest h
        · rcases List.mem_cons.mp h with rfl | h
          · exact Or.inl rfl
          · exact hrest h

theorem isAnchorChar_of_mem_plain {t : Text} {c : Char} (h : c ∈ plain t) :
    isAnchorChar c = true := by
  rcases mem_hyphenate (Text.mem_of_mem_trimWhile h) with rfl | ⟨hmem, hword⟩
  · decide
  · obtain ⟨d, _, hd⟩ := List.mem_flatMap.mp hmem
    exact isAnchorChar_of_mem_lowercaseChar hd hword

theorem hubChar_of_not_isAscii {c : Char} (hc : Text.isAscii c = false) :
    hubChar c =
      if Text.isAlphanumeric c || Text.isMark c then Text.lowercaseChar c else [] := by
  have hcode : 0x80 ≤ c.toNat := Nat.le_of_not_lt (of_decide_eq_false hc)
  have hletter : c.isAlphanum = false := by
    rw [← Bool.not_eq_true]
    exact fun h => absurd ((Text.isAscii_of_isAlphanum h).symm.trans hc) (by decide)
  have hne : ∀ d, Text.isAscii d = true → (c == d) = false :=
    fun d => Text.beq_eq_false_of_isAscii hc
  simp [hubChar, hletter, hcode, hne '-' (by decide), hne '_' (by decide), hne ' ' (by decide)]

theorem isAnchorChar_of_mem_hubChar {c d : Char} (hd : d ∈ hubChar c)
    (hascii : Text.isAscii d = true) : isAnchorChar d = true := by
  cases hc : Text.isAscii c with
  | true =>
      have hhub : ∀ c, Text.isAscii c = true → (hubChar c).all isAnchorChar = true := by
        apply Text.forall_isAscii
        decide +kernel
      exact List.all_eq_true.mp (hhub c hc) d hd
  | false =>
      rw [hubChar_of_not_isAscii hc] at hd
      split at hd
      next =>
        have hlower := Text.isLower_of_mem_lowercaseChar hc hd hascii
        simp [isAnchorChar, hlower]
      next => simp at hd

end Slug

theorem SlugStyle.allows_base (style : SlugStyle) (t : Text) :
    ∀ c ∈ style.base t, style.Allows c := by
  intro c hc
  cases style with
  | plain => exact Or.inl (Slug.isAnchorChar_of_mem_plain hc)
  | hub =>
      obtain ⟨d, _, hd⟩ := List.mem_flatMap.mp hc
      cases hascii : Text.isAscii c with
      | true => exact Or.inl (Slug.isAnchorChar_of_mem_hubChar hd hascii)
      | false => exact Or.inr ⟨rfl, hascii⟩

namespace Slugger

theorem allows_numbered {style : SlugStyle} {slug : Text} (h : ∀ c ∈ slug, style.Allows c)
    (n : Nat) : ∀ c ∈ numbered slug n, style.Allows c := by
  intro c hc
  rcases List.mem_append.mp hc with hslug | htail
  · exact h c hslug
  · left
    rcases List.mem_cons.mp htail with rfl | hdigit
    · decide
    · have hdigit := Nat.isDigit_of_mem_toDigits (by decide) (by decide) hdigit
      simp [isAnchorChar, hdigit]

theorem claim_cases (s : Slugger) (slug : Text) :
    (s.claim slug).1 = slug ∨ ∃ n, (s.claim slug).1 = numbered slug n := by
  rw [claim]
  split
  · exact Or.inr ⟨_, rfl⟩
  · exact Or.inl rfl

theorem allows_next (s : Slugger) (t : Text) : ∀ c ∈ (s.next t).1, s.style.Allows c := by
  have hbase := s.style.allows_base t
  rw [next]
  rcases s.claim_cases (s.style.base t) with hslug | ⟨n, hnumbered⟩
  · rwa [hslug]
  · rw [hnumbered]
    exact allows_numbered hbase n

theorem allows_run (s : Slugger) (texts : List Text) :
    ∀ anchor ∈ (s.run texts).1, ∀ c ∈ anchor, s.style.Allows c := by
  induction texts generalizing s with
  | nil => simp [run]
  | cons t texts ih =>
      rw [run_cons]
      intro anchor hanchor
      rcases List.mem_cons.mp hanchor with rfl | hanchor
      · exact s.allows_next t
      · have hrest := ih (s.next t).2 anchor hanchor
        rwa [style_next] at hrest

end Slugger

end DocLinks
