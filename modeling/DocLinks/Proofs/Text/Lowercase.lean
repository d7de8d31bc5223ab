import DocLinks.Text.Lowercase
import Mathlib.Data.List.Basic

namespace DocLinks

theorem CharMap.apply_cases (runs : CharMap) (n : Nat) :
    runs.apply n = n ∨
      ∃ first last step image, (first, last, step, image) ∈ runs ∧ first ≤ n ∧ n ≤ last ∧
        (n - first) % step = 0 ∧ runs.apply n = image + (n - first) := by
  induction runs with
  | nil => exact Or.inl rfl
  | cons run runs ih =>
      obtain ⟨first, last, step, image⟩ := run
      rw [apply]
      split
      next hrun =>
        exact Or.inr ⟨first, last, step, image, List.mem_cons_self, hrun.1, hrun.2.1, hrun.2.2, rfl⟩
      next =>
        rcases ih with hsame | ⟨first, last, step, image, hmem, himage⟩
        · exact Or.inl hsame
        · exact Or.inr ⟨first, last, step, image, List.mem_cons_of_mem _ hmem, himage⟩

theorem CharMap.apply_of_forall_lt {runs : CharMap} {n : Nat} (h : ∀ run ∈ runs, n < run.1) :
    runs.apply n = n := by
  rcases apply_cases runs n with hsame | ⟨first, last, step, image, hmem, hfirst, _⟩
  · exact hsame
  · exact absurd (h _ hmem) (Nat.not_lt.mpr hfirst)

namespace Text

theorem forall_isAscii {P : Char → Prop} (h : ∀ n < 0x80, P (Char.ofNat n)) :
    ∀ c, isAscii c = true → P c := by
  intro c hc
  rw [← Char.ofNat_toNat c]
  exact h c.toNat (of_decide_eq_true hc)

theorem apply_lowercaseRuns_of_ascii {n : Nat} (hn : n < 0x80) :
    lowercaseRuns.apply n = if 0x41 ≤ n ∧ n ≤ 0x5a then n + 0x20 else n := by
  have hbeyond : ∀ run ∈ lowercaseRuns.tail, 0x80 ≤ run.1 := by decide +kernel
  have htail : CharMap.apply lowercaseRuns.tail n = n :=
    CharMap.apply_of_forall_lt fun run hrun => Nat.lt_of_lt_of_le hn (hbeyond run hrun)
  change (if 0x41 ≤ n ∧ n ≤ 0x5a ∧ (n - 0x41) % 1 = 0 then 0x61 + (n - 0x41)
    else CharMap.apply lowercaseRuns.tail n) = _
  rw [htail]
  split <;> split <;> omega

theorem lowercaseChar_of_isAscii (c : Char) (hc : isAscii c = true) :
    lowercaseChar c = [c.toLower] := by
  have hcases : ∀ c, isAscii c = true → c ≠ 'İ' ∧
      Char.ofNat (if 0x41 ≤ c.toNat ∧ c.toNat ≤ 0x5a then c.toNat + 0x20 else c.toNat) =
        c.toLower := by
    apply forall_isAscii
    decide +kernel
  obtain ⟨hne, hlower⟩ := hcases c hc
  rw [lowercaseChar, if_neg hne, apply_lowercaseRuns_of_ascii (of_decide_eq_true hc), hlower]

theorem lowercaseRuns_images : ∀ run ∈ lowercaseRuns, 0x80 ≤ run.2.1 →
    run = (0x212a, 0x212a, 1, 0x6b) ∨
      0x80 ≤ run.2.2.2 ∧ (run.2.2.2 + (run.2.1 - run.1) < 0xD800 ∨
        0xDFFF < run.2.2.2 ∧ run.2.2.2 + (run.2.1 - run.1) < 0x110000) := by
  decide +kernel

theorem apply_lowercaseRuns_beyond_ascii {n : Nat} (hn : 0x80 ≤ n) (hvalid : n.isValidChar) :
    lowercaseRuns.apply n = 0x6b ∨
      0x80 ≤ lowercaseRuns.apply n ∧ (lowercaseRuns.apply n).isValidChar := by
  rcases CharMap.apply_cases lowercaseRuns n with hsame |
    ⟨first, last, step, image, hmem, hfirst, hlast, _, himage⟩
  · rw [hsame]
    exact Or.inr ⟨hn, hvalid⟩
  · have himages : (first, last, step, image) = (0x212a, 0x212a, 1, 0x6b) ∨
        0x80 ≤ image ∧ (image + (last - first) < 0xD800 ∨
          0xDFFF < image ∧ image + (last - first) < 0x110000) :=
      lowercaseRuns_images _ hmem (Nat.le_trans hn hlast)
    rw [himage, Nat.isValidChar]
    rcases himages with hrun | himages
    · obtain ⟨rfl, rfl, _, rfl⟩ : first = 0x212a ∧ last = 0x212a ∧ step = 1 ∧ image = 0x6b := by
        simpa using hrun
      omega
    · omega

theorem isLower_of_mem_lowercaseChar {c d : Char} (hc : isAscii c = false)
    (hd : d ∈ lowercaseChar c) (hascii : isAscii d = true) : d.isLower = true := by
  have hcode : 0x80 ≤ c.toNat := Nat.le_of_not_lt (of_decide_eq_false hc)
  rw [lowercaseChar] at hd
  split at hd
  next =>
    rcases List.mem_cons.mp hd with rfl | hd
    · decide
    · obtain rfl := List.mem_singleton.mp hd
      exact absurd hascii (by decide)
  next =>
    obtain rfl := List.mem_singleton.mp hd
    rcases apply_lowercaseRuns_beyond_ascii hcode c.valid with hletter | ⟨hbeyond, hvalid⟩
    · rw [hletter]
      decide
    · have htoNat : (Char.ofNat (lowercaseRuns.apply c.toNat)).toNat =
          lowercaseRuns.apply c.toNat := by
        rw [Char.ofNat, dif_pos hvalid]
        rfl
      have hlow := of_decide_eq_true hascii
      omega

end Text

end DocLinks
