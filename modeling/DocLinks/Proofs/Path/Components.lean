import DocLinks.Path.Basic
import DocLinks.Proofs.Text.Cut

namespace DocLinks.Path

def named (t : Text) : List Component :=
  (Text.splitAll '/' t).filterMap componentOf

@[simp] theorem named_nil : named [] = [] := rfl

theorem named_append_cons (s t : Text) : named (s ++ '/' :: t) = named s ++ named t := by
  rw [named, Text.splitAll_append_cons, List.filterMap_append]
  rfl

theorem named_slash_cons (t : Text) : named ('/' :: t) = named t :=
  named_append_cons [] t

theorem named_dot_slash_cons (t : Text) : named ('.' :: '/' :: t) = named t :=
  named_append_cons ['.'] t

theorem named_join {parts : List Text} (h : ∀ part ∈ parts, '/' ∉ part) :
    named (Text.join ['/'] parts) = parts.filterMap componentOf := by
  by_cases hne : parts = []
  · subst hne
    rfl
  · rw [named, Text.splitAll_join hne h]

/-- Parts that are not skipped, and that no separator divides. -/
def IsPart (part : Text) : Prop :=
  isSkipped part = false ∧ '/' ∉ part

theorem IsPart.ne_nil {part : Text} (h : IsPart part) : part ≠ [] := by
  rintro rfl
  exact absurd h.1 (by decide)

theorem isAbsolute_iff {p : Path} : p.isAbsolute = true ↔ ∃ rest, p.text = '/' :: rest := by
  rcases p with ⟨t⟩
  cases t <;> simp [isAbsolute]

theorem IsPart.isAbsolute_eq_false {part : Text} (h : IsPart part) :
    (⟨part⟩ : Path).isAbsolute = false := by
  rw [Bool.eq_false_iff]
  intro habsolute
  obtain ⟨rest, hpart⟩ := isAbsolute_iff.mp habsolute
  change part = '/' :: rest at hpart
  exact h.2 (hpart.symm ▸ List.mem_cons_self)

theorem start_cases (p : Path) :
    (∃ rest, p.text = '/' :: rest ∧ p.start = some .root) ∨
      (p.text = ['.'] ∧ p.start = some .current) ∨
        (∃ rest, p.text = '.' :: '/' :: rest ∧ p.start = some .current) ∨
          (p.isAbsolute = false ∧ p.start = none) := by
  rcases p with ⟨t⟩
  simp only [start, isAbsolute]
  split
  · exact Or.inl ⟨_, rfl, rfl⟩
  · exact Or.inr (Or.inl ⟨rfl, rfl⟩)
  · exact Or.inr (Or.inr (Or.inl ⟨_, rfl, rfl⟩))
  next hroot _ _ =>
    refine Or.inr (Or.inr (Or.inr ⟨?_, rfl⟩))
    cases t with
    | nil => rfl
    | cons c rest =>
        have hc : c ≠ '/' := fun h => hroot rest (h ▸ rfl)
        simpa using hc

theorem bodyComponents_eq_named (p : Path) : p.bodyComponents = named p.text := by
  rw [bodyComponents, body]
  rcases start_cases p with ⟨rest, htext, hstart⟩ | ⟨htext, hstart⟩ | ⟨rest, htext, hstart⟩ |
    ⟨_, hstart⟩
  · rw [hstart, htext, named_slash_cons]
    rfl
  · rw [hstart, htext]
    rfl
  · rw [hstart, htext, named_dot_slash_cons]
    exact named_slash_cons rest
  · rw [hstart]
    rfl

theorem components_eq (p : Path) : p.components = p.start.toList ++ named p.text := by
  rw [components, bodyComponents_eq_named]

theorem components_of_isAbsolute {p : Path} (h : p.isAbsolute = true) :
    p.components = .root :: named p.text := by
  obtain ⟨rest, htext⟩ := isAbsolute_iff.mp h
  rw [components_eq, start, htext]
  rfl

theorem start_join {part : Text} (h : IsPart part) (parts : List Text) :
    (⟨Text.join ['/'] (part :: parts)⟩ : Path).start = none := by
  obtain ⟨c, cs, rfl⟩ := List.exists_cons_of_ne_nil h.ne_nil
  obtain ⟨rest, hjoin⟩ : ∃ rest, Text.join ['/'] ((c :: cs) :: parts) = c :: cs ++ rest ∧
      (rest = [] ∨ rest.head? = some '/') := by
    cases parts with
    | nil => exact ⟨[], by simp [Text.join], Or.inl rfl⟩
    | cons next parts =>
        exact ⟨'/' :: Text.join ['/'] (next :: parts), by simp [Text.join], Or.inr rfl⟩
  have hslash : '/' ≠ c ∧ '/' ∉ cs := by simpa using h.2
  rw [hjoin.1, start]
  split
  next heq => exact absurd (List.cons.inj heq).1.symm hslash.1
  next heq =>
    obtain ⟨rfl, hrest⟩ := List.cons.inj heq
    obtain ⟨rfl, _⟩ := List.append_eq_nil_iff.mp hrest
    exact absurd h.1 (by decide)
  next heq =>
    obtain ⟨rfl, hrest⟩ := List.cons.inj heq
    cases cs with
    | nil => exact absurd h.1 (by decide)
    | cons d cs =>
        obtain ⟨rfl, _⟩ := List.cons.inj hrest
        simp at hslash
  next => rfl

theorem isAbsolute_join (p q : Path) :
    (p.join q).isAbsolute = (p.isAbsolute || q.isAbsolute) := by
  rcases p with ⟨s⟩
  rcases q with ⟨t⟩
  rw [join, push]
  split
  next h => simp [h]
  next h =>
    have hq : isAbsolute ⟨t⟩ = false := by simpa using h
    rw [hq, Bool.or_false]
    cases s with
    | nil => simpa [isAbsolute] using hq
    | cons c s => split <;> simp [isAbsolute]

theorem named_join_of_not_isAbsolute {p q : Path} (h : q.isAbsolute = false) :
    named (p.join q).text = named p.text ++ named q.text := by
  rcases p with ⟨s⟩
  rcases q with ⟨t⟩
  rw [join, push, if_neg (by simp [h])]
  split
  next hend =>
    rcases hend with hnil | hslash
    · change s = [] at hnil
      rw [hnil]
      rfl
    · obtain ⟨before, hs⟩ := List.getLast?_eq_some_iff.mp hslash
      change s = before ++ ['/'] at hs
      rw [hs, List.append_assoc, List.singleton_append, named_append_cons, named_append_cons,
        named_nil, List.append_nil]
  next => exact named_append_cons s t

theorem filterMap_dropWhile_isSkipped (parts : List Text) :
    (parts.dropWhile isSkipped).filterMap componentOf = parts.filterMap componentOf := by
  induction parts with
  | nil => rfl
  | cons part parts ih =>
      by_cases h : isSkipped part = true
      · have hnone : componentOf part = none := by rw [componentOf, if_pos h]
        rw [List.dropWhile_cons_of_pos h, ih, List.filterMap_cons_none hnone]
      · rw [List.dropWhile_cons_of_neg h]

theorem isSkipped_of_dropWhile {parts rest : List Text} {part : Text}
    (h : parts.dropWhile isSkipped = part :: rest) : isSkipped part = false := by
  have hhead := List.head?_dropWhile_not isSkipped parts
  rw [h] at hhead
  simpa using hhead

theorem front_prefix {parts rest : List Text} {last : Text}
    (h : parts.reverse.dropWhile isSkipped = last :: rest) :
    (rest.dropWhile isSkipped).reverse <+: parts := by
  have hkept : last :: rest <:+ parts.reverse := h ▸ List.dropWhile_suffix isSkipped
  have hrest : rest.dropWhile isSkipped <:+ parts.reverse :=
    ((List.dropWhile_suffix isSkipped).trans (List.suffix_cons last rest)).trans hkept
  rwa [← List.reverse_prefix, List.reverse_reverse] at hrest

theorem isSkipped_first_eq_false {p : Path} (hstart : p.start = none) {part : Text}
    {parts : List Text} (hparts : Text.splitAll '/' p.text = part :: parts) (hne : p.text ≠ []) :
    isSkipped part = false := by
  have htext : p.text = Text.join ['/'] (part :: parts) := by
    rw [← hparts, Text.join_splitAll]
  rw [Bool.eq_false_iff]
  intro hskipped
  have hpart : part = [] ∨ part = ['.'] := by simpa [isSkipped] using hskipped
  rw [start, htext] at hstart
  rcases hpart with rfl | rfl
  · cases parts with
    | nil => exact hne htext
    | cons next parts => simp [Text.join] at hstart
  · cases parts with
    | nil => simp [Text.join] at hstart
    | cons next parts => simp [Text.join] at hstart

theorem parent?_eq_some {p : Path} {parts : List Text} {last : Text}
    (hparts : Text.splitAll '/' p.body = parts ++ [last])
    (hskipped : ∀ part ∈ parts ++ [last], isSkipped part = false) :
    p.parent? =
      some ⟨p.text.take (p.text.length - p.body.length) ++ Text.join ['/'] parts⟩ := by
  have hkeep : ∀ kept : List Text, (∀ part ∈ kept, isSkipped part = false) →
      kept.reverse.dropWhile isSkipped = kept.reverse := by
    intro kept hkept
    cases hreverse : kept.reverse with
    | nil => rfl
    | cons part rest =>
        have hpart : part ∈ kept := by
          rw [← List.mem_reverse, hreverse]
          exact List.mem_cons_self
        exact List.dropWhile_cons_of_neg (by simp [hkept part hpart])
  have hfront := hkeep parts fun part hpart => hskipped part (List.mem_append_left _ hpart)
  rw [parent?, hparts, hkeep _ hskipped, List.reverse_concat]
  simp only [hfront, List.reverse_reverse]

theorem components_front {p : Path} {front rest : List Text}
    (hparts : Text.splitAll '/' p.body = front ++ rest)
    (hlast : ∀ part, front.getLast? = some part → isSkipped part = false) :
    (⟨p.text.take (p.text.length - p.body.length) ++ Text.join ['/'] front⟩ : Path).components =
      p.start.toList ++ front.filterMap componentOf := by
  have hslash : ∀ part ∈ front, '/' ∉ part := by
    intro part hpart
    apply Text.notMem_of_mem_splitAll (t := p.body)
    rw [hparts]
    exact List.mem_append_left rest hpart
  rw [body] at hparts ⊢
  rcases start_cases p with ⟨text, htext, hstart⟩ | ⟨htext, hstart⟩ | ⟨text, htext, hstart⟩ |
    ⟨_, hstart⟩
  · rw [← named_join hslash]
    simp [htext, components_eq, start, named_slash_cons]
  · simp only [hstart, htext, Option.isSome_some, if_true] at hparts ⊢
    have hfront : front = [] := by
      rcases List.cons_eq_append_iff.mp hparts with ⟨hnil, _⟩ | ⟨tail, hcons, hempty⟩
      · exact hnil
      · obtain ⟨rfl, _⟩ := List.append_eq_nil_iff.mp hempty.symm
        exact absurd (hlast [] (by rw [hcons]; rfl)) (by decide)
    rw [hfront]
    rfl
  · simp only [hstart, htext, Option.isSome_some, if_true, List.tail_cons] at hparts ⊢
    have hempty : Text.splitAll '/' ('/' :: text) = [] :: Text.splitAll '/' text :=
      Text.splitAll_append_cons '/' [] text
    rw [hempty] at hparts
    rcases List.cons_eq_append_iff.mp hparts with ⟨rfl, _⟩ | ⟨tail, rfl, _⟩
    · simp [Text.join, components_eq, start]
      rfl
    · cases tail with
      | nil => exact absurd (hlast [] rfl) (by decide)
      | cons next tail =>
          rw [← named_join hslash]
          simp [Text.join, components_eq, start, named_slash_cons, named_dot_slash_cons]
  · simp only [hstart, Option.isSome_none, Bool.false_eq_true, if_false] at hparts ⊢
    rw [Nat.sub_self, List.take_zero, List.nil_append, components_eq, named_join hslash]
    congr 2
    cases front with
    | nil => rfl
    | cons part front =>
        by_cases hne : p.text = []
        · rw [hne] at hparts
          obtain ⟨hpart, hfront⟩ := List.cons.inj hparts
          obtain ⟨rfl, _⟩ := List.append_eq_nil_iff.mp hfront.symm
          exact absurd (hlast part rfl) (by rw [← hpart]; decide)
        · exact start_join ⟨isSkipped_first_eq_false hstart hparts hne,
            hslash part List.mem_cons_self⟩ front

theorem components_parent (p : Path) :
    (p.parent?.getD ⟨[]⟩).components = p.components.dropLast := by
  have hnamed : named p.text =
      (((Text.splitAll '/' p.body).reverse.dropWhile isSkipped).filterMap componentOf).reverse := by
    rw [filterMap_dropWhile_isSkipped, List.filterMap_reverse, List.reverse_reverse,
      ← bodyComponents_eq_named, bodyComponents]
  rw [parent?, components_eq p, hnamed]
  cases hkept : (Text.splitAll '/' p.body).reverse.dropWhile isSkipped with
  | nil =>
      have hempty : (if p.start = some .current then some (⟨[]⟩ : Path) else none).getD ⟨[]⟩ =
          ⟨[]⟩ := by
        split <;> rfl
      simp only [hempty]
      cases p.start <;> rfl
  | cons last rest =>
      let front := (rest.dropWhile isSkipped).reverse
      obtain ⟨c, hc⟩ : ∃ c, componentOf last = some c := by
        rw [componentOf, isSkipped_of_dropWhile hkept]
        by_cases h : last = ['.', '.'] <;> simp [h]
      have hfrontLast : ∀ part, front.getLast? = some part → isSkipped part = false := by
        intro part hpart
        rw [List.getLast?_reverse] at hpart
        obtain ⟨tail, htail⟩ := List.head?_eq_some_iff.mp hpart
        exact isSkipped_of_dropWhile htail
      obtain ⟨tail, htail⟩ := front_prefix hkept
      change (⟨_ ++ Text.join ['/'] front⟩ : Path).components = _
      rw [components_front htail.symm hfrontLast, List.filterMap_cons_some hc, List.reverse_cons,
        ← List.append_assoc, List.dropLast_concat, List.filterMap_reverse,
        filterMap_dropWhile_isSkipped]

end DocLinks.Path
