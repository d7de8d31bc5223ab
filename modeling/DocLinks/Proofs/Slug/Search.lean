import DocLinks.Proofs.Slug.Numbering

namespace DocLinks.Slugger

/-- A search under way: the anchor to try next, and the counters. -/
structure Search where
  candidate : Text
  counts : List (Text × Nat)

/-- One more round of the search behind a slug; none when the candidate is not taken. -/
def Search.next? (slug : Text) (p : Search) : Option Search :=
  if (p.counts.map Prod.fst).contains p.candidate then
    let n := count p.counts slug + 1
    some ⟨numbered slug n, setCount slug n p.counts⟩
  else none

theorem Search.next?_of_mem {slug : Text} {p : Search} (h : p.candidate ∈ p.counts.map Prod.fst) :
    p.next? slug =
      some ⟨numbered slug (count p.counts slug + 1),
        setCount slug (count p.counts slug + 1) p.counts⟩ :=
  if_pos (List.contains_iff_mem.mpr h)

theorem Search.next?_of_notMem {slug : Text} {p : Search}
    (h : p.candidate ∉ p.counts.map Prod.fst) : p.next? slug = none :=
  if_neg fun hcontains => h (List.contains_iff_mem.mp hcontains)

/-- The search from `p` ends at `e` after that many rounds. -/
inductive Search.EndsAfter (slug : Text) : Nat → Search → Search → Prop
  | done {p : Search} : p.next? slug = none → EndsAfter slug 0 p p
  | round {rounds : Nat} {p q e : Search} : p.next? slug = some q → EndsAfter slug rounds q e →
      EndsAfter slug (rounds + 1) p e

theorem count_cons (anchor other : Text) (n : Nat) (counts : List (Text × Nat)) :
    count ((anchor, n) :: counts) other = if other = anchor then n else count counts other := by
  by_cases h : other = anchor
  · simp [count, h]
  · have hbeq : (other == anchor) = false := by simpa using h
    simp [count, List.lookup_cons, h, hbeq]

theorem map_fst_setCount (slug : Text) (n : Nat) (counts : List (Text × Nat)) :
    (setCount slug n counts).map Prod.fst = counts.map Prod.fst := by
  rw [setCount, List.map_map]
  apply List.map_congr_left
  intro entry _
  by_cases h : entry.1 = slug <;> simp [h]

theorem lookup_setCount (slug other : Text) (n : Nat) (counts : List (Text × Nat)) :
    (setCount slug n counts).lookup other =
      if other = slug then (counts.lookup other).map fun _ => n else counts.lookup other := by
  induction counts with
  | nil => simp [setCount]
  | cons entry counts ih =>
      obtain ⟨key, value⟩ := entry
      rw [setCount] at ih ⊢
      rw [List.map_cons]
      by_cases hother : other = key
      · subst hother
        by_cases hslug : other = slug <;> simp [hslug]
      · have hbeq : (other == key) = false := by simpa using hother
        by_cases hkey : key = slug
        · rw [if_pos hkey, List.lookup_cons, List.lookup_cons, hbeq]
          exact ih
        · rw [if_neg hkey, List.lookup_cons, List.lookup_cons, hbeq]
          exact ih

theorem count_setCount_of_ne {slug other : Text} (h : other ≠ slug) (n : Nat)
    (counts : List (Text × Nat)) : count (setCount slug n counts) other = count counts other := by
  rw [count, lookup_setCount, if_neg h, count]

theorem count_setCount_self {slug : Text} {counts : List (Text × Nat)}
    (h : slug ∈ counts.map Prod.fst) (n : Nat) : count (setCount slug n counts) slug = n := by
  have hsome : (counts.lookup slug).isSome := by
    rw [List.lookup_isSome_iff]
    obtain ⟨entry, hentry, rfl⟩ := List.mem_map.mp h
    exact ⟨entry, hentry, by simp⟩
  obtain ⟨value, hvalue⟩ := Option.isSome_iff_exists.mp hsome
  rw [count, lookup_setCount, if_pos rfl, hvalue]
  rfl

theorem setCount_setCount (slug : Text) (m n : Nat) (counts : List (Text × Nat)) :
    setCount slug m (setCount slug n counts) = setCount slug m counts := by
  simp only [setCount, List.map_map]
  apply List.map_congr_left
  intro entry _
  by_cases h : entry.1 = slug <;> simp [h]

theorem search_endsAfter_of_taken {slug : Text} {counts : List (Text × Nat)}
    (hslug : slug ∈ counts.map Prod.fst) (rounds : Nat) {n : Nat}
    (htaken : ∀ i, n ≤ i → i < n + rounds → numbered slug i ∈ counts.map Prod.fst)
    (hfree : numbered slug (n + rounds) ∉ counts.map Prod.fst) :
    Search.EndsAfter slug rounds ⟨numbered slug n, setCount slug n counts⟩
      ⟨numbered slug (n + rounds), setCount slug (n + rounds) counts⟩ := by
  induction rounds generalizing n with
  | zero =>
      apply Search.EndsAfter.done
      apply Search.next?_of_notMem
      rw [map_fst_setCount]
      exact hfree
  | succ rounds ih =>
      have hstep : Search.next? slug ⟨numbered slug n, setCount slug n counts⟩ =
          some ⟨numbered slug (n + 1), setCount slug (n + 1) counts⟩ := by
        have hmem : numbered slug n ∈ (setCount slug n counts).map Prod.fst := by
          rw [map_fst_setCount]
          exact htaken n (Nat.le_refl n) (by omega)
        rw [Search.next?_of_mem hmem]
        simp only [count_setCount_self hslug, setCount_setCount]
      rw [show n + (rounds + 1) = n + 1 + rounds by omega] at hfree ⊢
      refine Search.EndsAfter.round hstep (ih ?_ hfree)
      intro i hlow hhigh
      exact htaken i (by omega) (by omega)

theorem search_ends_at_claim (s : Slugger) (slug : Text) :
    ∃ rounds e, Search.EndsAfter slug rounds ⟨slug, s.counts⟩ e ∧
      s.claim slug = (e.candidate, { s with counts := (e.candidate, 0) :: e.counts }) := by
  rw [claim]
  by_cases hslug : slug ∈ s.taken
  · rw [if_pos hslug]
    let c := count s.counts slug
    let n := firstFree s.taken slug s.taken.length c
    have hlt : c < n := lt_firstFree s.taken slug s.taken.length c
    have hfirst : Search.next? slug ⟨slug, s.counts⟩ =
        some ⟨numbered slug (c + 1), setCount slug (c + 1) s.counts⟩ := by
      exact Search.next?_of_mem hslug
    have htaken : ∀ i, c < i → i < n → numbered slug i ∈ s.taken := by
      intro i hlow hhigh
      exact numbered_mem_of_lt_firstFree hlow hhigh
    have hends := search_endsAfter_of_taken (n := c + 1) hslug (n - (c + 1))
      (fun i hlow hhigh => htaken i hlow (by omega))
      (by
        rw [Nat.add_sub_cancel' hlt]
        exact numbered_firstFree_notMem s.taken slug c)
    rw [Nat.add_sub_cancel' hlt] at hends
    exact ⟨_, _, .round hfirst hends, rfl⟩
  · rw [if_neg hslug]
    exact ⟨0, ⟨slug, s.counts⟩, .done (Search.next?_of_notMem hslug), rfl⟩

end DocLinks.Slugger
