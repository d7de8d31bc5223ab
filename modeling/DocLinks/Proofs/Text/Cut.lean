import DocLinks.Text.Basic

namespace DocLinks.Text

theorem splitOnce_eq_some_iff {c : Char} {t before after : Text} :
    splitOnce c t = some (before, after) ↔ t = before ++ c :: after ∧ c ∉ before := by
  induction t generalizing before with
  | nil => simp [splitOnce]
  | cons d rest ih =>
      rw [splitOnce]
      by_cases hd : d = c
      · rw [if_pos hd, hd]
        constructor
        · intro h
          obtain ⟨rfl, rfl⟩ : [] = before ∧ rest = after := by simpa using h
          simp
        · rintro ⟨hsplit, hbefore⟩
          cases before with
          | nil => simpa using hsplit
          | cons b before =>
              have hb : c = b := (List.cons.inj hsplit).1
              exact absurd (hb ▸ List.mem_cons_self) hbefore
      · rw [if_neg hd, Option.map_eq_some_iff]
        constructor
        · rintro ⟨⟨a, b⟩, hsome, hhalves⟩
          obtain ⟨rfl, rfl⟩ : d :: a = before ∧ b = after := by simpa using hhalves
          obtain ⟨rfl, ha⟩ := ih.mp hsome
          refine ⟨rfl, ?_⟩
          simp [ha, Ne.symm hd]
        · rintro ⟨hsplit, hbefore⟩
          cases before with
          | nil => exact absurd (List.cons.inj hsplit).1 hd
          | cons b before =>
              obtain ⟨rfl, rfl⟩ := List.cons.inj hsplit
              refine ⟨(before, after), ih.mpr ⟨rfl, ?_⟩, rfl⟩
              exact fun h => hbefore (List.mem_cons_of_mem _ h)

theorem splitOnce_eq_none_iff {c : Char} {t : Text} : splitOnce c t = none ↔ c ∉ t := by
  induction t with
  | nil => simp [splitOnce]
  | cons d rest ih =>
      rw [splitOnce]
      by_cases hd : d = c
      · simp [hd]
      · simp [if_neg hd, ih, Ne.symm hd]

theorem append_cons_inj_of_notMem_left {c : Char} {s t before before' : Text} (h : c ∉ before)
    (h' : c ∉ before') (heq : before ++ c :: s = before' ++ c :: t) : before = before' ∧ s = t := by
  have hcut := splitOnce_eq_some_iff.mpr ⟨heq, h'⟩
  rw [splitOnce_eq_some_iff.mpr ⟨rfl, h⟩] at hcut
  exact Prod.mk.inj (Option.some.inj hcut)

theorem append_cons_inj_of_notMem_right {c : Char} {s t after after' : Text} (h : c ∉ after)
    (h' : c ∉ after') (heq : s ++ c :: after = t ++ c :: after') : s = t ∧ after = after' := by
  have hreverse : after.reverse ++ c :: s.reverse = after'.reverse ++ c :: t.reverse := by
    simpa using congrArg List.reverse heq
  obtain ⟨hafter, hbefore⟩ := append_cons_inj_of_notMem_left (mt List.mem_reverse.mp h)
    (mt List.mem_reverse.mp h') hreverse
  exact ⟨List.reverse_inj.mp hbefore, List.reverse_inj.mp hafter⟩

theorem splitAll_eq_splitOn (c : Char) (t : Text) : splitAll c t = t.splitOn c := by
  induction t with
  | nil => rfl
  | cons d rest ih =>
      rw [splitAll, List.splitOn_cons_eq_if_modifyHead, ih]
      by_cases hd : d = c
      · simp [hd]
      · rw [if_neg hd, if_neg (by simpa using hd)]
        cases hparts : rest.splitOn c with
        | nil => exact absurd hparts (List.splitOn_ne_nil c rest)
        | cons part parts => rfl

theorem join_eq_intercalate (separator : Text) (parts : List Text) :
    join separator parts = separator.intercalate parts := by
  induction parts with
  | nil => rfl
  | cons part parts ih =>
      cases parts with
      | nil => simp [join]
      | cons next parts => rw [join, ih, List.intercalate_cons_cons]; simp

theorem splitAll_append_cons (c : Char) (s t : Text) :
    splitAll c (s ++ c :: t) = splitAll c s ++ splitAll c t := by
  simp only [splitAll_eq_splitOn]
  exact List.splitOn_append_cons_self s t

theorem splitAll_join {c : Char} {parts : List Text} (hne : parts ≠ [])
    (h : ∀ part ∈ parts, c ∉ part) : splitAll c (join [c] parts) = parts := by
  rw [splitAll_eq_splitOn, join_eq_intercalate]
  exact List.splitOn_intercalate c h hne

theorem join_splitAll (c : Char) (t : Text) : join [c] (splitAll c t) = t := by
  rw [splitAll_eq_splitOn, join_eq_intercalate]
  exact List.intercalate_splitOn c

theorem splitAll_of_notMem {c : Char} {t : Text} (h : c ∉ t) : splitAll c t = [t] :=
  @splitAll_join c [t] (by simp) (by simpa using h)

theorem length_splitAll (c : Char) (t : Text) : (splitAll c t).length = t.count c + 1 := by
  induction t with
  | nil => rfl
  | cons d rest ih =>
      rw [splitAll, List.count_cons]
      by_cases hd : d = c
      · simp [hd, ih]
      · cases hparts : splitAll c rest with
        | nil => simp [hparts] at ih
        | cons part parts => simpa [hd, hparts] using ih

theorem splitAll_join_eq_flatMap {c : Char} {parts : List Text} (hne : parts ≠ []) :
    splitAll c (join [c] parts) = parts.flatMap (splitAll c) := by
  induction parts with
  | nil => exact absurd rfl hne
  | cons part parts ih =>
      cases parts with
      | nil => simp [join]
      | cons next parts =>
          have hjoin :
              join [c] (part :: next :: parts) = part ++ c :: join [c] (next :: parts) := by
            simp [join]
          rw [hjoin, splitAll_append_cons, ih (by simp)]
          rfl

theorem subset_of_mem_splitAll {c : Char} {t part : Text} (h : part ∈ splitAll c t) : part ⊆ t := by
  induction t generalizing part with
  | nil => simp_all [splitAll]
  | cons d rest ih =>
      rw [splitAll] at h
      by_cases hd : d = c
      · rw [if_pos hd] at h
        rcases List.mem_cons.mp h with rfl | h
        · simp
        · exact List.subset_cons_of_subset d (ih h)
      · rw [if_neg hd] at h
        cases hparts : splitAll c rest with
        | nil => simp_all
        | cons first parts =>
            rw [hparts] at h ih
            rcases List.mem_cons.mp h with rfl | h
            · exact List.cons_subset_cons d (ih List.mem_cons_self)
            · exact List.subset_cons_of_subset d (ih (List.mem_cons_of_mem _ h))

theorem notMem_of_mem_splitAll {c : Char} {t part : Text} (h : part ∈ splitAll c t) :
    c ∉ part := by
  induction t generalizing part with
  | nil => simp_all [splitAll]
  | cons d rest ih =>
      rw [splitAll] at h
      by_cases hd : d = c
      · rw [if_pos hd] at h
        rcases List.mem_cons.mp h with rfl | h
        · simp
        · exact ih h
      · rw [if_neg hd] at h
        cases hparts : splitAll c rest with
        | nil => simp_all [Ne.symm hd]
        | cons first parts =>
            rw [hparts] at h ih
            rcases List.mem_cons.mp h with rfl | h
            · simp [Ne.symm hd, ih List.mem_cons_self]
            · exact ih (List.mem_cons_of_mem _ h)

theorem join_append {separator : Text} {parts more : List Text} (hne : parts ≠ [])
    (hmore : more ≠ []) :
    join separator (parts ++ more) = join separator parts ++ separator ++ join separator more := by
  induction parts with
  | nil => exact absurd rfl hne
  | cons first parts ih =>
      cases parts with
      | nil =>
          obtain ⟨next, others, rfl⟩ := List.exists_cons_of_ne_nil hmore
          rfl
      | cons next parts =>
          have hrest := ih (by simp)
          simp only [List.cons_append, join] at hrest ⊢
          rw [hrest]
          simp only [List.append_assoc]

theorem join_append_singleton (separator part : Text) {parts : List Text} (hne : parts ≠ []) :
    join separator (parts ++ [part]) = join separator parts ++ separator ++ part :=
  join_append hne (by simp)

theorem join_cons_ne_nil (separator : Text) {part : Text} (parts : List Text) (h : part ≠ []) :
    join separator (part :: parts) ≠ [] := by
  cases parts <;> simp [join, h]

theorem notMem_join {c : Char} {separator : Text} {parts : List Text} (hc : c ∉ separator)
    (hparts : ∀ part ∈ parts, c ∉ part) : c ∉ join separator parts := by
  induction parts with
  | nil => simp [join]
  | cons part parts ih =>
      obtain ⟨hpart, hrest⟩ := List.forall_mem_cons.mp hparts
      cases parts with
      | nil => exact hpart
      | cons next parts => simp [join, hc, hpart, ih hrest]

end DocLinks.Text
