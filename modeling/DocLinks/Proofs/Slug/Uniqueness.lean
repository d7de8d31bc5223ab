import Mathlib.Order.Bounds.Defs
import DocLinks.Proofs.Slug.Search

/-!
The anchors of a document by the plain rule: a slug that is still unused is its own anchor, and
any other gets the least number that makes it unused. The counters of a slugger only save work;
the anchors are those of the plain rule, and no two of them are equal.
-/

namespace DocLinks.Slugger

/-- The anchor that the plain rule gives a slug, by the anchors used before. -/
def IsFirstUnused (used : Set Text) (slug anchor : Text) : Prop :=
  (slug ∉ used ∧ anchor = slug) ∨
    (slug ∈ used ∧ ∃ k, IsLeast {n | 1 ≤ n ∧ numbered slug n ∉ used} k ∧ anchor = numbered slug k)

theorem IsFirstUnused.notMem {used : Set Text} {slug anchor : Text}
    (h : IsFirstUnused used slug anchor) : anchor ∉ used := by
  rcases h with ⟨hslug, rfl⟩ | ⟨_, k, hleast, rfl⟩
  · exact hslug
  · exact hleast.1.2

theorem IsFirstUnused.unique {used : Set Text} {slug anchor other : Text}
    (h : IsFirstUnused used slug anchor) (h' : IsFirstUnused used slug other) :
    anchor = other := by
  rcases h with ⟨hslug, rfl⟩ | ⟨hslug, k, hleast, rfl⟩
  · rcases h' with ⟨_, rfl⟩ | ⟨hslug', _⟩
    · rfl
    · exact absurd hslug' hslug
  · rcases h' with ⟨hslug', _⟩ | ⟨_, k', hleast', rfl⟩
    · exact absurd hslug hslug'
    · have hk : k = k' := Nat.le_antisymm (hleast.2 hleast'.1) (hleast'.2 hleast.1)
      rw [hk]

/-- Behind every anchor, the numbers up to its counter are taken. -/
def CountersTaken (s : Slugger) : Prop :=
  ∀ slug i, 1 ≤ i → i ≤ count s.counts slug → numbered slug i ∈ s.taken

theorem countersTaken_new (style : SlugStyle) : CountersTaken (new style) := by
  intro slug i hi hcount
  rw [new, count] at hcount
  simp at hcount
  omega

theorem taken_claim (s : Slugger) (slug : Text) :
    (s.claim slug).2.taken = (s.claim slug).1 :: s.taken := by
  rw [claim]
  split
  · simp only [taken, List.map_cons, map_fst_setCount]
  · rfl

theorem claim_isFirstUnused {s : Slugger} (hs : CountersTaken s) (slug : Text) :
    IsFirstUnused {a | a ∈ s.taken} slug (s.claim slug).1 := by
  rw [claim]
  by_cases hslug : slug ∈ s.taken
  · rw [if_pos hslug]
    refine Or.inr ⟨hslug, firstFree s.taken slug s.taken.length (count s.counts slug), ?_, rfl⟩
    have hlt := lt_firstFree s.taken slug s.taken.length (count s.counts slug)
    refine ⟨⟨by omega, numbered_firstFree_notMem s.taken slug _⟩, ?_⟩
    rintro k ⟨hk, hfree⟩
    -- Below the number found, the counter vouches for the first numbers, the search for the rest.
    by_contra hbelow
    apply hfree
    by_cases hcount : k ≤ count s.counts slug
    · exact hs slug k hk hcount
    · exact numbered_mem_of_lt_firstFree (by omega) (Nat.lt_of_not_le hbelow)
  · rw [if_neg hslug]
    exact Or.inl ⟨hslug, rfl⟩

theorem countersTaken_claim {s : Slugger} (hs : CountersTaken s) (slug : Text) :
    CountersTaken (s.claim slug).2 := by
  intro other i hi hcount
  rw [taken_claim]
  rw [claim] at hcount ⊢
  by_cases hslug : slug ∈ s.taken
  · rw [if_pos hslug] at hcount ⊢
    simp only [count_cons] at hcount
    split at hcount
    next => omega
    next =>
      by_cases hother : other = slug
      · subst hother
        rw [count_setCount_self hslug] at hcount
        rcases Nat.eq_or_lt_of_le hcount with hlast | hbelow
        · rw [hlast]
          exact List.mem_cons_self
        · apply List.mem_cons_of_mem
          by_cases hold : i ≤ count s.counts other
          · exact hs other i hi hold
          · exact numbered_mem_of_lt_firstFree (by omega) hbelow
      · rw [count_setCount_of_ne hother] at hcount
        exact List.mem_cons_of_mem _ (hs other i hi hcount)
  · rw [if_neg hslug] at hcount ⊢
    simp only [count_cons] at hcount
    split at hcount
    next => omega
    next => exact List.mem_cons_of_mem _ (hs other i hi hcount)

theorem run_cons (s : Slugger) (t : Text) (texts : List Text) :
    s.run (t :: texts) =
      ((s.next t).1 :: ((s.next t).2.run texts).1, ((s.next t).2.run texts).2) :=
  rfl

theorem run_append (s : Slugger) (texts more : List Text) :
    s.run (texts ++ more) =
      ((s.run texts).1 ++ ((s.run texts).2.run more).1, ((s.run texts).2.run more).2) := by
  induction texts generalizing s with
  | nil => rfl
  | cons t texts ih => simp only [List.cons_append, run_cons, ih]

theorem length_run (s : Slugger) (texts : List Text) : (s.run texts).1.length = texts.length := by
  induction texts generalizing s with
  | nil => rfl
  | cons t texts ih => simp only [run_cons, List.length_cons, ih]

theorem run_split (s : Slugger) (before after : List Text) (t : Text) :
    (s.run (before ++ t :: after)).1.take before.length = (s.run before).1 ∧
      (s.run (before ++ t :: after)).1[before.length]? = some ((s.run before).2.next t).1 := by
  have hlength := length_run s before
  rw [run_append, run_cons]
  refine ⟨List.take_left' hlength, ?_⟩
  rw [List.getElem?_append_right (Nat.le_of_eq hlength), hlength, Nat.sub_self]
  rfl

theorem style_next (s : Slugger) (t : Text) : (s.next t).2.style = s.style := by
  rw [next, claim]
  split <;> rfl

theorem style_run (s : Slugger) (texts : List Text) : (s.run texts).2.style = s.style := by
  induction texts generalizing s with
  | nil => rfl
  | cons t texts ih => rw [run_cons, ih, style_next]

theorem taken_run (s : Slugger) (texts : List Text) :
    (s.run texts).2.taken = (s.run texts).1.reverse ++ s.taken := by
  induction texts generalizing s with
  | nil => rfl
  | cons t texts ih =>
      have htaken : (s.next t).2.taken = (s.next t).1 :: s.taken := taken_claim s _
      simp only [run_cons, ih, htaken, List.reverse_cons, List.append_assoc, List.cons_append,
        List.nil_append]

theorem mem_taken_run_new (style : SlugStyle) (texts : List Text) (anchor : Text) :
    anchor ∈ ((new style).run texts).2.taken ↔ anchor ∈ ((new style).run texts).1 := by
  rw [taken_run]
  simp [new, taken]

theorem countersTaken_run {s : Slugger} (hs : CountersTaken s) (texts : List Text) :
    CountersTaken (s.run texts).2 := by
  induction texts generalizing s with
  | nil => exact hs
  | cons t texts ih => exact ih (countersTaken_claim hs _)

theorem nodup_taken_claim {s : Slugger} (hs : CountersTaken s) (hnodup : s.taken.Nodup)
    (slug : Text) : (s.claim slug).2.taken.Nodup := by
  rw [taken_claim]
  exact List.nodup_cons.mpr ⟨(claim_isFirstUnused hs slug).notMem, hnodup⟩

theorem nodup_taken_run {s : Slugger} (hs : CountersTaken s) (hnodup : s.taken.Nodup)
    (texts : List Text) : (s.run texts).2.taken.Nodup := by
  induction texts generalizing s with
  | nil => exact hnodup
  | cons t texts ih => exact ih (countersTaken_claim hs _) (nodup_taken_claim hs hnodup _)

/-- A new slugger hands out the anchors of the plain rule: the search for each anchor ends, its
candidate is the only anchor that the rule gives by the anchors before it, and no anchor comes
twice. -/
theorem run_new_firstUnused (style : SlugStyle) (texts : List Text) :
    let anchors := ((new style).run texts).1
    anchors.length = texts.length ∧ anchors.Nodup ∧
      ∀ i : Fin texts.length,
        let slug := style.base texts[i]
        ∃ rounds e, Search.EndsAfter slug rounds
            ⟨slug, ((new style).run (texts.take i)).2.counts⟩ e ∧
          anchors[i.val]? = some e.candidate ∧
          ∀ anchor, IsFirstUnused {a | a ∈ anchors.take i} slug anchor ↔ anchor = e.candidate := by
  refine ⟨length_run _ _, ?_, ?_⟩
  · have hnodup := nodup_taken_run (countersTaken_new style) List.nodup_nil texts
    rw [taken_run] at hnodup
    simpa [new, taken] using hnodup
  · intro i
    let before := texts.take i
    let s := ((new style).run before).2
    have hbefore : before.length = i := by
      simp [before]
    obtain ⟨hearlier, hanchor⟩ := run_split (new style) before (texts.drop (i + 1)) texts[i]
    rw [hbefore, show before ++ texts[i] :: texts.drop (i + 1) = texts by simp [before]]
      at hearlier hanchor
    rw [next, style_run] at hanchor
    obtain ⟨rounds, e, hends, hclaim⟩ := search_ends_at_claim s (style.base texts[i])
    have hfirst := claim_isFirstUnused (countersTaken_run (countersTaken_new style) before)
      (style.base texts[i])
    simp only [mem_taken_run_new, ← hearlier] at hfirst
    change IsFirstUnused _ _ (s.claim _).1 at hfirst
    rw [hclaim] at hfirst
    refine ⟨rounds, e, hends, hanchor.trans (congrArg (fun r => some r.1) hclaim), ?_⟩
    intro anchor
    exact ⟨fun h => h.unique hfirst, fun h => h ▸ hfirst⟩

/-- A heading that looks like a numbered one takes that number: the third anchor is not `a-1`. -/
example : ((new .plain).run ["a".toList, "a-1".toList, "A".toList, "a".toList]).1 =
    ["a".toList, "a-1".toList, "a-2".toList, "a-3".toList] := by
  decide +kernel

end DocLinks.Slugger
