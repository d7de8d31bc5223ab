import DocLinks.Proofs.Json.Grammar

namespace DocLinks.Json

theorem IsHex.eq_four {n : Nat} {digits : Text} (h : IsHex n digits) :
    ∃ a b c d : Char, digits = [a, b, c, d] := by
  obtain ⟨hlength, _⟩ := h
  match digits, hlength with
  | [a, b, c, d], _ => exact ⟨a, b, c, d, rfl⟩

theorem readHex4_append {n : Nat} {digits : Text} (h : IsHex n digits) (rest : Text) :
    readHex4 (digits ++ rest) = .ok (n, rest) := by
  obtain ⟨a, b, c, d, rfl⟩ := h.eq_four
  have hbytes : ¬ Text.utf8Length (a :: b :: c :: d :: rest) < 4 := by
    have hlength := Text.length_le_utf8Length (a :: b :: c :: d :: rest)
    simp only [List.length_cons] at hlength
    omega
  obtain ⟨hall, hvalue⟩ : (∀ x ∈ [a, b, c, d], Text.isDigitOf 16 x = true) ∧
      Text.digitsValue 16 [a, b, c, d] = n := by
    simpa [Text.toNat?] using h.2
  simp only [List.forall_mem_cons, Text.isDigitOf, Option.isSome_iff_exists] at hall
  obtain ⟨⟨x, hx⟩, ⟨y, hy⟩, ⟨z, hz⟩, ⟨w, hw⟩, _⟩ := hall
  simp only [Text.digitsValue, List.foldl_cons, List.foldl_nil, hx, hy, hz, hw,
    Option.getD_some] at hvalue
  simp only [readHex4, List.cons_append, List.nil_append, if_neg hbytes, hx, hy, hz, hw]
  rw [← hvalue, Nat.zero_mul, Nat.zero_add]

theorem readUnicodeEscape_unit {c : Char} {digits : Text} (h : IsHex c.toNat digits) (rest : Text) :
    readUnicodeEscape (digits ++ rest) = .ok (c, rest) := by
  have hscalar : c.toNat < 0xD800 ∨ 0xDFFF < c.toNat := by
    rcases c.valid with hbelow | ⟨habove, _⟩
    · exact Or.inl hbelow
    · exact Or.inr habove
  have hlow : ¬ (0xDC00 ≤ c.toNat ∧ c.toNat ≤ 0xDFFF) := by omega
  have hhigh : c.toNat < 0xD800 ∨ 0xDBFF < c.toNat := by omega
  simp only [readUnicodeEscape, readHex4_append h, bind, Except.bind, if_neg hlow, if_pos hhigh,
    Char.ofNat_toNat]
  rfl

theorem readUnicodeEscape_pair {c : Char} {high low : Nat} {digits digits' : Text}
    (hhigh : 0xD800 ≤ high ∧ high ≤ 0xDBFF) (hlow : 0xDC00 ≤ low ∧ low ≤ 0xDFFF)
    (hc : c.toNat = 0x10000 + (high - 0xD800) * 0x400 + (low - 0xDC00)) (h : IsHex high digits)
    (h' : IsHex low digits') (rest : Text) :
    readUnicodeEscape (digits ++ '\\' :: 'u' :: (digits' ++ rest)) = .ok (c, rest) := by
  have hnotlow : ¬ (0xDC00 ≤ high ∧ high ≤ 0xDFFF) := by omega
  have hpair : ¬ (high < 0xD800 ∨ 0xDBFF < high) := by omega
  have hpartner : ¬ (low < 0xDC00 ∨ 0xDFFF < low) := by omega
  simp only [readUnicodeEscape, readHex4_append h, readHex4_append h', bind, Except.bind,
    if_neg hnotlow, if_neg hpair, if_neg hpartner, ← hc, Char.ofNat_toNat]
  rfl

theorem simpleEscape?_of_mem {e c : Char} (h : (e, c) ∈ shortEscapes) :
    e ≠ 'u' ∧ simpleEscape? e = some c := by
  have hall : ∀ entry ∈ shortEscapes, entry.1 ≠ 'u' ∧ simpleEscape? entry.1 = some entry.2 := by
    decide
  exact hall (e, c) h

theorem readStringTail_char {c : Char} {t : Text} (h : WrittenChar c t) {fuel : Nat}
    {s rest after : Text} (hrest : readStringTail fuel rest = .ok (s, after)) :
    readStringTail (fuel + 1) (t ++ rest) = .ok (c :: s, after) := by
  cases h with
  | plain hcontrol hquote hbackslash =>
      have hcontrol : ¬ c.toNat < 0x20 := Nat.not_lt.mpr hcontrol
      simp [readStringTail, hquote, hcontrol, hbackslash, hrest, Functor.map, Except.map]
  | @short e _ hescape =>
      obtain ⟨hunicode, hsome⟩ := simpleEscape?_of_mem hescape
      simp [readStringTail, hsome, hrest, bind, Except.bind, pure, Except.pure]
  | @unit _ digits hdigits =>
      have hescape := readUnicodeEscape_unit hdigits rest
      simp [readStringTail, hescape, hrest, bind, Except.bind, pure, Except.pure]
  | pair hhigh hlow hc hdigits hdigits' =>
      have hescape := readUnicodeEscape_pair hhigh hlow hc hdigits hdigits' rest
      simp [readStringTail, hescape, hrest, bind, Except.bind, pure, Except.pure]

theorem WrittenChar.length_pos {c : Char} {t : Text} (h : WrittenChar c t) : 0 < t.length := by
  cases h <;> simp

theorem readStringTail_append {s t : Text} (h : WrittenChars s t) {fuel : Nat} (rest : Text)
    (hfuel : t.length < fuel) : readStringTail fuel (t ++ '"' :: rest) = .ok (s, rest) := by
  induction h generalizing fuel with
  | nil =>
      obtain ⟨fuel, rfl⟩ := Nat.exists_eq_add_of_lt hfuel
      simp [readStringTail]
  | @cons c s t u hchar _ ih =>
      have hpos := hchar.length_pos
      rw [List.length_append] at hfuel
      obtain ⟨fuel, rfl⟩ : ∃ k, fuel = k + 1 := ⟨fuel - 1, by omega⟩
      rw [List.append_assoc]
      exact readStringTail_char hchar (ih (by omega))

theorem readString_append {s t : Text} (h : WrittenChars s t) (rest : Text) :
    readString (t ++ '"' :: rest) = .ok (s, rest) := by
  refine readStringTail_append h rest ?_
  rw [List.length_append]
  omega

theorem skipStringTail_char {c : Char} {t : Text} (h : WrittenChar c t) :
    ∃ steps ≤ t.length, ∀ (fuel : Nat) (rest : Text),
      skipStringTail (fuel + steps) (t ++ rest) = skipStringTail fuel rest := by
  cases h with
  | plain hcontrol hquote hbackslash =>
      have hcontrol : ¬ c.toNat < 0x20 := Nat.not_lt.mpr hcontrol
      refine ⟨1, by simp, fun fuel rest => ?_⟩
      simp [skipStringTail, hquote, hcontrol, hbackslash]
  | short hescape =>
      obtain ⟨hunicode, hsome⟩ := simpleEscape?_of_mem hescape
      refine ⟨1, by simp, fun fuel rest => ?_⟩
      simp [skipStringTail, hsome]
  | unit hdigits =>
      refine ⟨1, by simp, fun fuel rest => ?_⟩
      simp [skipStringTail, readHex4_append hdigits, bind, Except.bind]
  | pair _ _ _ hdigits hdigits' =>
      refine ⟨2, by simp, fun fuel rest => ?_⟩
      simp [skipStringTail, readHex4_append hdigits, readHex4_append hdigits', bind, Except.bind]

theorem skipStringTail_append {s t : Text} (h : WrittenChars s t) {fuel : Nat} (rest : Text)
    (hfuel : t.length < fuel) : skipStringTail fuel (t ++ '"' :: rest) = .ok rest := by
  induction h generalizing fuel with
  | nil =>
      obtain ⟨fuel, rfl⟩ := Nat.exists_eq_add_of_lt hfuel
      simp [skipStringTail]
  | @cons c s t u hchar _ ih =>
      obtain ⟨steps, hsteps, hskip⟩ := skipStringTail_char hchar
      rw [List.length_append] at hfuel
      obtain ⟨fuel, rfl⟩ : ∃ k, fuel = k + steps := ⟨fuel - steps, by omega⟩
      rw [List.append_assoc, hskip]
      exact ih (by omega)

theorem skipString_append {s t : Text} (h : WrittenChars s t) (rest : Text) :
    skipString (t ++ '"' :: rest) = .ok rest := by
  refine skipStringTail_append h rest ?_
  rw [List.length_append]
  omega

end DocLinks.Json
