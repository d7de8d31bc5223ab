import DocLinks.Proofs.Json.Number
import DocLinks.Proofs.Json.String
import Mathlib.Data.List.DropRight

namespace DocLinks.Json

theorem isBlank_iff {c : Char} : isBlank c = true ↔ c ∈ [' ', '\n', '\t', '\r'] := by
  simp [isBlank, or_assoc]

theorem skipBlanks_append {blanks : Text} (h : IsBlanks blanks) (t : Text) :
    skipBlanks (blanks ++ t) = skipBlanks t :=
  List.dropWhile_append_of_pos fun c hc => isBlank_iff.mpr (h c hc)

theorem skipBlanks_cons {c : Char} (h : isBlank c = false) (t : Text) :
    skipBlanks (c :: t) = c :: t := by
  simp [skipBlanks, h]

@[simp] theorem skipBlanks_skipBlanks (t : Text) : skipBlanks (skipBlanks t) = skipBlanks t :=
  List.dropWhile_idempotent isBlank t

@[simp] theorem skipValue_skipBlanks (fuel : Nat) (t : Text) :
    skipValue fuel (skipBlanks t) = skipValue fuel t := by
  cases fuel <;> simp [skipValue]

@[simp] theorem skipItems_skipBlanks (fuel : Nat) (t : Text) :
    skipItems fuel (skipBlanks t) = skipItems fuel t := by
  cases fuel <;> simp [skipItems]

@[simp] theorem skipMembers_skipBlanks (fuel : Nat) (t : Text) :
    skipMembers fuel (skipBlanks t) = skipMembers fuel t := by
  cases fuel <;> simp [skipMembers]

theorem skipValue_append {blanks : Text} (h : IsBlanks blanks) (fuel : Nat) (t : Text) :
    skipValue fuel (blanks ++ t) = skipValue fuel t := by
  rw [← skipValue_skipBlanks, skipBlanks_append h, skipValue_skipBlanks]

/-- What a value may begin with: a letter, a digit, a minus sign, a quote or an opening bracket.
-/
def StartsValue (c : Char) : Prop :=
  c ∈ ['n', 't', 'f', '-', '"', '[', '\x7b'] ∨ c.isDigit = true

theorem StartsValue.spec {c : Char} (h : StartsValue c) : isBlank c = false ∧ c ≠ ']' := by
  rcases h with h | h
  · have hall : ∀ c ∈ ['n', 't', 'f', '-', '"', '[', '\x7b'], isBlank c = false ∧ c ≠ ']' := by
      simp [isBlank]
    exact hall c h
  · have hall : ∀ d ∈ [' ', '\n', '\t', '\r', ']'], d.isDigit = false := by simp
    have hne : ∀ d ∈ [' ', '\n', '\t', '\r', ']'], c ≠ d := fun d hd => ne_of_isDigit h (hall d hd)
    simp only [List.forall_mem_cons] at hne
    simp [isBlank, hne]

theorem Written.eq_cons {v : Value} {t : Text} (h : Written v t) :
    ∃ c rest, t = c :: rest ∧ StartsValue c := by
  cases h with
  | number hnumber =>
      obtain ⟨c, rest, rfl, hc⟩ := hnumber.eq_cons
      refine ⟨c, rest, rfl, hc.imp_left ?_⟩
      rintro rfl
      decide
  | _ => exact ⟨_, _, rfl, Or.inl (by decide)⟩

theorem skipValue_number {t rest : Text} (h : IsNumber t) (hrest : EndsNumber rest) (fuel : Nat) :
    skipValue (fuel + 1) (t ++ rest) = .ok rest := by
  have hskip := skipNumber_append h hrest
  obtain ⟨c, t, rfl, hc⟩ := h.eq_cons
  rcases hc with rfl | hc
  · simpa [skipValue, skipBlanks, isBlank] using hskip
  · have hblank := (StartsValue.spec (Or.inr hc)).1
    have hall : ∀ d ∈ ['n', 't', 'f', '"', '[', '\x7b'], d.isDigit = false := by simp
    have hne : ∀ d ∈ ['n', 't', 'f', '"', '[', '\x7b'], c ≠ d := fun d hd =>
      ne_of_isDigit hc (hall d hd)
    simp only [List.forall_mem_cons] at hne
    obtain ⟨hn, ht, hf, hquote, hbracket, hbrace, _⟩ := hne
    rw [List.cons_append] at hskip ⊢
    rw [skipValue, skipBlanks_cons hblank]
    simp [hc, hskip]

theorem expect_append (word rest : Text) : expect word (word ++ rest) = .ok rest := by
  induction word with
  | nil => rfl
  | cons c word ih => simpa [expect] using ih

theorem EndsNumber.of_isBlanks {blanks rest : Text} (h : IsBlanks blanks)
    (hrest : EndsNumber rest) : EndsNumber (blanks ++ rest) := by
  cases blanks with
  | nil => exact hrest
  | cons c blanks =>
      have hblanks : ∀ c ∈ [' ', '\n', '\t', '\r'], c.isDigit = false ∧ c ∉ ['.', 'e', 'E'] := by
        simp
      intro d hd
      obtain rfl : c = d := by simpa using hd
      exact hblanks c (h c List.mem_cons_self)

theorem endsNumber_cons {c : Char} (h : c ∈ [',', ']', '\x7d']) (rest : Text) :
    EndsNumber (c :: rest) := by
  have hall : ∀ c ∈ [',', ']', '\x7d'], c.isDigit = false ∧ c ∉ ['.', 'e', 'E'] := by simp
  intro d hd
  obtain rfl : c = d := by simpa using hd
  exact hall c h

theorem Padded.trim {v : Value} {t : Text} (h : Padded v t) :
    ∃ c u, StartsValue c ∧ Padded v (c :: u) ∧
      ∀ rest, skipBlanks (t ++ rest) = c :: (u ++ rest) := by
  cases h with
  | @mk _ before t behind hbefore hwritten hbehind =>
      obtain ⟨c, t, rfl, hc⟩ := hwritten.eq_cons
      refine ⟨c, t ++ behind, hc, Padded.mk isBlanks_nil hwritten hbehind, ?_⟩
      intro rest
      rw [List.append_assoc, skipBlanks_append hbefore]
      simpa using skipBlanks_cons hc.spec.1 _

theorem WrittenItems.trim {items : List Value} {t : Text} (h : WrittenItems items t) :
    ∃ c u, StartsValue c ∧ WrittenItems items (c :: u) ∧
      ∀ rest, skipBlanks (t ++ rest) = c :: (u ++ rest) := by
  cases h with
  | last hvalue =>
      obtain ⟨c, u, hc, htrim, hblanks⟩ := hvalue.trim
      exact ⟨c, u, hc, .last htrim, hblanks⟩
  | @more _ _ _ w hvalue hitems =>
      obtain ⟨c, u, hc, htrim, hblanks⟩ := hvalue.trim
      refine ⟨c, u ++ ',' :: w, hc, .more htrim hitems, fun rest => ?_⟩
      rw [List.append_assoc, hblanks, List.append_assoc]

theorem WrittenMember.trim {m : Text × Value} {t : Text} (h : WrittenMember m t) :
    ∃ u, WrittenMember m ('"' :: u) ∧ ∀ rest, skipBlanks (t ++ rest) = '"' :: (u ++ rest) := by
  cases h with
  | mk hbefore hname hbehind hvalue =>
      refine ⟨_, .mk isBlanks_nil hname hbehind hvalue, fun rest => ?_⟩
      rw [List.append_assoc, skipBlanks_append hbefore]
      exact skipBlanks_cons (by decide) _

theorem WrittenMembers.trim {members : List (Text × Value)} {t : Text}
    (h : WrittenMembers members t) :
    ∃ u, WrittenMembers members ('"' :: u) ∧
      ∀ rest, skipBlanks (t ++ rest) = '"' :: (u ++ rest) := by
  cases h with
  | last hmember =>
      obtain ⟨u, htrim, hblanks⟩ := hmember.trim
      exact ⟨u, .last htrim, hblanks⟩
  | @more _ _ _ w hmember hmembers =>
      obtain ⟨u, htrim, hblanks⟩ := hmember.trim
      refine ⟨u ++ ',' :: w, .more htrim hmembers, fun rest => ?_⟩
      rw [List.append_assoc, hblanks, List.append_assoc]

/-- With this much fuel everything written that the fuel covers is read over. -/
structure Skips (fuel : Nat) : Prop where
  value {v : Value} {t : Text} : Written v t → 2 * t.length ≤ fuel → ∀ {rest : Text},
    EndsNumber rest → skipValue fuel (t ++ rest) = .ok rest
  items {items : List Value} {t : Text} : WrittenItems items t → 2 * t.length + 1 ≤ fuel →
    ∀ rest, skipItems fuel (t ++ ']' :: rest) = .ok rest
  members {members : List (Text × Value)} {t : Text} : WrittenMembers members t →
    2 * t.length + 1 ≤ fuel → ∀ rest, skipMembers fuel (t ++ '\x7d' :: rest) = .ok rest

variable {fuel : Nat}

theorem Skips.padded (h : Skips fuel) {v : Value} {t rest : Text} (hvalue : Padded v t)
    (hfuel : 2 * t.length ≤ fuel) (hrest : EndsNumber rest) :
    ∃ behind, skipValue fuel (t ++ rest) = .ok behind ∧ skipBlanks behind = skipBlanks rest := by
  cases hvalue with
  | @mk _ before t behind hbefore hwritten hbehind =>
      simp only [List.length_append] at hfuel
      refine ⟨behind ++ rest, ?_, skipBlanks_append hbehind rest⟩
      rw [List.append_assoc, skipValue_append hbefore, List.append_assoc]
      exact h.value hwritten (by omega) (hrest.of_isBlanks hbehind)

theorem Skips.value_succ (h : Skips fuel) {v : Value} {t rest : Text} (hwritten : Written v t)
    (hfuel : 2 * t.length ≤ fuel + 1) (hrest : EndsNumber rest) :
    skipValue (fuel + 1) (t ++ rest) = .ok rest := by
  cases hwritten with
  | number hnumber => exact skipValue_number hnumber hrest fuel
  | null => exact expect_append ['u', 'l', 'l'] rest
  | true => exact expect_append ['r', 'u', 'e'] rest
  | false => exact expect_append ['a', 'l', 's', 'e'] rest
  | string hchars =>
      simpa [skipValue, skipBlanks_cons, isBlank] using skipString_append hchars rest
  | emptyArray hblanks =>
      simp [skipValue, skipBlanks_cons, isBlank, skipBlanks_append hblanks]
  | @array items t hitems =>
      simp only [List.length_cons, List.length_append] at hfuel
      have hskip := h.items hitems (by omega) rest
      obtain ⟨c, u, hc, _, hblanks⟩ := hitems.trim
      rw [← skipItems_skipBlanks, hblanks] at hskip
      simp [skipValue, skipBlanks_cons, isBlank, hblanks, hc.spec.2, hskip]
  | emptyObject hblanks =>
      simp [skipValue, skipBlanks_cons, isBlank, skipBlanks_append hblanks]
  | object hmembers =>
      simp only [List.length_cons, List.length_append] at hfuel
      have hskip := h.members hmembers (by omega) rest
      obtain ⟨u, _, hblanks⟩ := hmembers.trim
      rw [← skipMembers_skipBlanks, hblanks] at hskip
      simp [skipValue, skipBlanks_cons, isBlank, hblanks, hskip]

theorem Skips.item (h : Skips fuel) {v : Value} {t rest : Text} (hvalue : Padded v t)
    (hfuel : 2 * t.length ≤ fuel) (hrest : EndsNumber rest) :
    skipItems (fuel + 1) (t ++ rest) =
      match skipBlanks rest with
      | [] => .error .unfinished
      | ',' :: rest => skipItems fuel rest
      | ']' :: rest => .ok rest
      | _ => .error .malformed := by
  obtain ⟨behind, hskip, hblanks⟩ := h.padded hvalue hfuel hrest
  simp only [skipItems, hskip]
  exact hblanks ▸ rfl

theorem Skips.items_succ (h : Skips fuel) {items : List Value} {t : Text}
    (hwritten : WrittenItems items t) (hfuel : 2 * t.length + 1 ≤ fuel + 1) (rest : Text) :
    skipItems (fuel + 1) (t ++ ']' :: rest) = .ok rest := by
  cases hwritten with
  | last hvalue =>
      rw [h.item hvalue (by omega) (endsNumber_cons (by decide) rest)]
      simp [skipBlanks_cons, isBlank]
  | @more _ _ t u hvalue hitems =>
      simp only [List.length_append, List.length_cons] at hfuel
      rw [List.append_assoc, List.cons_append,
        h.item hvalue (by omega) (endsNumber_cons (by decide) (u ++ ']' :: rest))]
      simpa [skipBlanks_cons, isBlank] using h.items hitems (by omega) rest

theorem Skips.member (h : Skips fuel) {m : Text × Value} {t rest : Text}
    (hmember : WrittenMember m t) (hfuel : 2 * t.length ≤ fuel) (hrest : EndsNumber rest) :
    skipMembers (fuel + 1) (t ++ rest) =
      match skipBlanks rest with
      | [] => .error .unfinished
      | ',' :: rest => skipMembers fuel rest
      | '\x7d' :: rest => .ok rest
      | _ => .error .malformed := by
  cases hmember with
  | mk hbefore hname hbehind hvalue =>
      simp only [List.length_append, List.length_cons] at hfuel
      obtain ⟨behind, hskip, hblanks⟩ := h.padded hvalue (by omega) hrest
      simp [skipMembers, skipBlanks_append hbefore, skipString_append hname,
        skipBlanks_append hbehind, hskip, skipBlanks_cons, isBlank]
      exact hblanks ▸ rfl

theorem Skips.members_succ (h : Skips fuel) {members : List (Text × Value)} {t : Text}
    (hwritten : WrittenMembers members t) (hfuel : 2 * t.length + 1 ≤ fuel + 1) (rest : Text) :
    skipMembers (fuel + 1) (t ++ '\x7d' :: rest) = .ok rest := by
  cases hwritten with
  | last hmember =>
      rw [h.member hmember (by omega) (endsNumber_cons (by decide) rest)]
      simp [skipBlanks_cons, isBlank]
  | @more _ _ t u hmember hmembers =>
      simp only [List.length_append, List.length_cons] at hfuel
      rw [List.append_assoc, List.cons_append,
        h.member hmember (by omega) (endsNumber_cons (by decide) (u ++ '\x7d' :: rest))]
      simpa [skipBlanks_cons, isBlank] using h.members hmembers (by omega) rest

-- Every step of the three functions takes one from the fuel, so the induction is on the fuel and
-- the cases are those of what is written.
theorem skips (fuel : Nat) : Skips fuel := by
  induction fuel with
  | zero =>
      refine ⟨fun hwritten hfuel => ?_, fun _ hfuel => by omega, fun _ hfuel => by omega⟩
      obtain ⟨c, rest, rfl, _⟩ := hwritten.eq_cons
      simp at hfuel
  | succ fuel ih => exact ⟨fun h hfuel _ => ih.value_succ h hfuel, ih.items_succ, ih.members_succ⟩

theorem skip_append {v : Value} {t rest : Text} (h : Padded v t) (hrest : EndsNumber rest) :
    ∃ behind, skip (t ++ rest) = .ok behind ∧ skipBlanks behind = skipBlanks rest := by
  refine (skips _).padded h ?_ hrest
  rw [List.length_append]
  omega

end DocLinks.Json
