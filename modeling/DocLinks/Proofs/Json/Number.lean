import DocLinks.Proofs.Json.Grammar

namespace DocLinks.Json

/-- No number goes on with the first character of the text. -/
def EndsNumber (t : Text) : Prop :=
  ∀ c ∈ t.head?, c.isDigit = false ∧ c ∉ ['.', 'e', 'E']

theorem ne_of_isDigit {c d : Char} (hc : c.isDigit = true) (hd : d.isDigit = false) : c ≠ d := by
  rintro rfl
  rw [hc] at hd
  contradiction

theorem IsDigits.eq_cons {digits : Text} (h : IsDigits digits) :
    ∃ c rest, digits = c :: rest ∧ c.isDigit = true := by
  obtain ⟨hne, hall⟩ := h
  obtain ⟨c, rest, rfl⟩ := List.exists_cons_of_ne_nil hne
  exact ⟨c, rest, rfl, hall c List.mem_cons_self⟩

theorem readDigits_append {digits rest : Text} (h : IsDigits digits)
    (hrest : ∀ c ∈ rest.head?, c.isDigit = false) :
    readDigits (digits ++ rest) = .ok (digits, rest) := by
  obtain ⟨hnone, hsame⟩ :
      rest.takeWhile Char.isDigit = [] ∧ rest.dropWhile Char.isDigit = rest := by
    cases rest with
    | nil => simp
    | cons c rest => simp [hrest c rfl]
  have htake : (digits ++ rest).takeWhile Char.isDigit = digits := by
    rw [List.takeWhile_append_of_pos h.2, hnone, List.append_nil]
  have hdrop : (digits ++ rest).dropWhile Char.isDigit = rest := by
    rw [List.dropWhile_append_of_pos h.2, hsame]
  obtain ⟨c, digits, rfl, hc⟩ := h.eq_cons
  simp only [List.cons_append] at htake hdrop
  simp [readDigits, hc, htake, hdrop]

theorem readSign_append {sign digits : Text} (hsign : sign ∈ [[], ['+'], ['-']])
    (hdigits : IsDigits digits) (rest : Text) :
    (readSign (sign ++ (digits ++ rest))).2 = digits ++ rest := by
  simp only [List.mem_cons, List.not_mem_nil, or_false] at hsign
  rcases hsign with rfl | rfl | rfl
  · obtain ⟨c, digits, rfl, hc⟩ := hdigits.eq_cons
    have hplus : c ≠ '+' := ne_of_isDigit hc (by decide)
    have hminus : c ≠ '-' := ne_of_isDigit hc (by decide)
    simp [readSign, hplus, hminus]
  · rfl
  · rfl

theorem IsExponent.readExponent_append {exponent rest : Text} (h : IsExponent exponent)
    (hrest : EndsNumber rest) :
    (∃ read, readExponent (exponent ++ rest) = .ok (read, rest)) ∧
      ∀ c ∈ (exponent ++ rest).head?, c.isDigit = false ∧ c ≠ '.' := by
  cases h with
  | absent =>
      cases rest with
      | nil => simp [readExponent]
      | cons c rest =>
          have hc := hrest c rfl
          simp only [List.mem_cons, List.not_mem_nil, or_false, not_or] at hc
          simp [readExponent, hc]
  | @present mark sign digits hmark hsign hdigits =>
      have hmarks : ∀ mark ∈ ['e', 'E'], (mark = 'e' ∨ mark = 'E') ∧ mark.isDigit = false ∧
          mark ≠ '.' := by simp
      obtain ⟨hmark, hhead⟩ := hmarks mark hmark
      have hread := readDigits_append hdigits fun c hc => (hrest c hc).1
      have hbehind := readSign_append hsign hdigits rest
      constructor
      · simp [readExponent, hmark, hbehind, hread, bind, Except.bind, pure, Except.pure]
      · simpa using hhead

theorem IsFraction.readFraction_append {fraction rest : Text} (h : IsFraction fraction)
    (hrest : ∀ c ∈ rest.head?, c.isDigit = false ∧ c ≠ '.') :
    (∃ read, readFraction (fraction ++ rest) = .ok (read, rest)) ∧
      ∀ c ∈ (fraction ++ rest).head?, c.isDigit = false := by
  cases h with
  | absent =>
      cases rest with
      | nil => simp [readFraction]
      | cons c rest =>
          obtain ⟨hdigit, hpoint⟩ := hrest c rfl
          simp [readFraction, hdigit, hpoint]
  | @present digits hdigits =>
      have hread := readDigits_append hdigits fun c hc => (hrest c hc).1
      constructor
      · simp [readFraction, hread]
      · simp

theorem readNumeral_append {whole fraction exponent rest : Text} (hwhole : IsDigits whole)
    (hzero : whole.head? = some '0' → whole = ['0']) (hfraction : IsFraction fraction)
    (hexponent : IsExponent exponent) (hrest : EndsNumber rest) :
    ∃ numeral, readNumeral (whole ++ (fraction ++ (exponent ++ rest))) = .ok (numeral, rest) := by
  obtain ⟨⟨readExp, hexp⟩, hexphead⟩ := hexponent.readExponent_append hrest
  obtain ⟨⟨readFrac, hfrac⟩, hfrachead⟩ := hfraction.readFraction_append hexphead
  have hread := readDigits_append hwhole hfrachead
  have hnozero : ¬ (whole.head? = some '0' ∧ whole.length > 1) := by
    rintro ⟨hhead, hlength⟩
    rw [hzero hhead] at hlength
    simp at hlength
  simp [readNumeral, hread, bind, Except.bind, hnozero, hfrac, hexp, pure, Except.pure]

theorem IsNumber.eq_cons {t : Text} (h : IsNumber t) :
    ∃ c rest, t = c :: rest ∧ (c = '-' ∨ c.isDigit = true) := by
  cases h with
  | @mk sign whole fraction exponent hsign hwhole _ _ _ =>
      obtain ⟨c, rest, rfl, hc⟩ := hwhole.eq_cons
      simp only [List.mem_cons, List.not_mem_nil, or_false] at hsign
      rcases hsign with rfl | rfl
      · exact ⟨c, _, rfl, Or.inr hc⟩
      · exact ⟨'-', _, rfl, Or.inl rfl⟩

theorem skipNumber_append {t rest : Text} (h : IsNumber t) (hrest : EndsNumber rest) :
    skipNumber (t ++ rest) = .ok rest := by
  cases h with
  | @mk sign whole fraction exponent hsign hwhole hzero hfraction hexponent =>
      obtain ⟨numeral, hread⟩ := readNumeral_append hwhole hzero hfraction hexponent hrest
      simp only [List.mem_cons, List.not_mem_nil, or_false] at hsign
      simp only [List.append_assoc]
      rcases hsign with rfl | rfl
      · obtain ⟨c, whole, rfl, hc⟩ := hwhole.eq_cons
        have hminus : c ≠ '-' := ne_of_isDigit hc (by decide)
        simp only [List.cons_append] at hread
        simp [skipNumber, hminus, hread, bind, Except.bind, pure, Except.pure]
      · simp [skipNumber, hread, bind, Except.bind, pure, Except.pure]

end DocLinks.Json
