import DocLinks.Proofs.Slug.Uniqueness
import DocLinks.Proofs.Text.Cut
import Mathlib.Algebra.Order.Ring.Nat
import Mathlib.Data.Finset.Max

/-!
The counters of a slugger, all of them together. Every round of a search adds one to a counter,
and nothing takes away from one. The numbers up to a counter make anchors that are taken, and no
anchor is made in two ways, so all counters together stay below the number of anchors: a run makes
fewer rounds than it has texts.
-/

namespace DocLinks.Slugger

/-- The sum of the counters. -/
def total (counts : List (Text × Nat)) : Nat :=
  (counts.map Prod.snd).sum

/-- The anchors with a number up to the counter of their slug. -/
def numberedAnchors (counts : List (Text × Nat)) : List Text :=
  counts.flatMap fun entry => (List.range entry.2).map fun i => numbered entry.1 (i + 1)

theorem numbered_inj {slug other : Text} {m n : Nat} :
    numbered slug m = numbered other n ↔ slug = other ∧ m = n := by
  constructor
  · intro h
    have hhyphen : ∀ k, '-' ∉ Text.ofNat k := Text.notMem_ofNat (by decide)
    obtain ⟨hslug, hdigits⟩ := Text.append_cons_inj_of_notMem_right (hhyphen m) (hhyphen n) h
    exact ⟨hslug, ofNat_injective hdigits⟩
  · rintro ⟨rfl, rfl⟩
    rfl

theorem mem_numberedAnchors {counts : List (Text × Nat)} {anchor : Text} :
    anchor ∈ numberedAnchors counts ↔
      ∃ entry ∈ counts, ∃ i < entry.2, anchor = numbered entry.1 (i + 1) := by
  simp [numberedAnchors, eq_comm]

theorem length_numberedAnchors (counts : List (Text × Nat)) :
    (numberedAnchors counts).length = total counts := by
  simp [numberedAnchors, total, List.length_flatMap]

theorem nodup_numberedAnchors {counts : List (Text × Nat)} (h : (counts.map Prod.fst).Nodup) :
    (numberedAnchors counts).Nodup := by
  rw [numberedAnchors, List.nodup_flatMap]
  constructor
  · intro entry _
    refine List.nodup_range.map ?_
    intro i j hij
    have := (numbered_inj.mp hij).2
    omega
  · refine (List.pairwise_map.mp h).imp ?_
    rintro entry other hne anchor hanchor hother
    obtain ⟨i, _, rfl⟩ := List.mem_map.mp hanchor
    obtain ⟨j, _, heq⟩ := List.mem_map.mp hother
    exact hne (numbered_inj.mp heq).1.symm

theorem count_of_mem {counts : List (Text × Nat)} (h : (counts.map Prod.fst).Nodup)
    {entry : Text × Nat} (hentry : entry ∈ counts) : count counts entry.1 = entry.2 := by
  induction counts with
  | nil => simp at hentry
  | cons first counts ih =>
      rw [List.map_cons, List.nodup_cons] at h
      rw [← Prod.mk.eta (p := first), count_cons]
      rcases List.mem_cons.mp hentry with rfl | hrest
      · exact if_pos rfl
      · have hne : entry.1 ≠ first.1 := by
          intro heq
          exact h.1 (heq ▸ List.mem_map_of_mem hrest)
        rw [if_neg hne, ih h.2 hrest]

theorem exists_taken_notMem_numberedAnchors {s : Slugger} (h : s.taken ≠ []) :
    ∃ anchor ∈ s.taken, anchor ∉ numberedAnchors s.counts := by
  obtain ⟨anchor, hanchor, hshortest⟩ :=
    s.taken.toFinset.exists_min_image List.length (by simpa using h)
  refine ⟨anchor, List.mem_toFinset.mp hanchor, ?_⟩
  intro hnumbered
  obtain ⟨entry, hentry, i, _, rfl⟩ := mem_numberedAnchors.mp hnumbered
  have hslug : entry.1 ∈ s.taken := List.mem_map_of_mem hentry
  have hlength := hshortest entry.1 (List.mem_toFinset.mpr hslug)
  rw [numbered, List.length_append, List.length_cons] at hlength
  omega

/-- All counters together are fewer than the anchors. -/
theorem total_lt_length_taken {s : Slugger} (hs : CountersTaken s) (hnodup : s.taken.Nodup)
    (h : s.taken ≠ []) : total s.counts < s.taken.length := by
  obtain ⟨anchor, hanchor, hplain⟩ := exists_taken_notMem_numberedAnchors h
  have hdistinct : (anchor :: numberedAnchors s.counts).Nodup :=
    List.nodup_cons.mpr ⟨hplain, nodup_numberedAnchors hnodup⟩
  have hsubset : anchor :: numberedAnchors s.counts ⊆ s.taken := by
    refine List.cons_subset.mpr ⟨hanchor, ?_⟩
    intro other hother
    obtain ⟨entry, hentry, i, hi, rfl⟩ := mem_numberedAnchors.mp hother
    have hcount := count_of_mem hnodup hentry
    exact hs entry.1 (i + 1) (by omega) (by omega)
  have hlength := (hdistinct.subperm hsubset).length_le
  rwa [List.length_cons, length_numberedAnchors] at hlength

theorem count_le_total (counts : List (Text × Nat)) (slug : Text) :
    count counts slug ≤ total counts := by
  induction counts with
  | nil => simp [count]
  | cons entry counts ih =>
      obtain ⟨anchor, n⟩ := entry
      rw [count_cons, total, List.map_cons, List.sum_cons]
      split
      · exact Nat.le_add_right _ _
      · exact Nat.le_trans ih (Nat.le_add_left _ _)

theorem setCount_of_notMem {slug : Text} {counts : List (Text × Nat)}
    (h : slug ∉ counts.map Prod.fst) (n : Nat) : setCount slug n counts = counts := by
  rw [setCount]
  conv_rhs => rw [← List.map_id counts]
  apply List.map_congr_left
  intro entry hentry
  have hne : entry.1 ≠ slug := fun heq => h (heq ▸ List.mem_map_of_mem hentry)
  rw [if_neg hne, id_eq]

theorem total_setCount {slug : Text} {counts : List (Text × Nat)}
    (hnodup : (counts.map Prod.fst).Nodup) (hslug : slug ∈ counts.map Prod.fst) (n : Nat) :
    total (setCount slug n counts) + count counts slug = total counts + n := by
  induction counts with
  | nil => simp at hslug
  | cons entry counts ih =>
      obtain ⟨anchor, value⟩ := entry
      rw [List.map_cons, List.nodup_cons] at hnodup
      rw [count_cons]
      by_cases hanchor : slug = anchor
      · subst hanchor
        have hrest : setCount slug n counts = counts := setCount_of_notMem hnodup.1 n
        rw [setCount] at hrest
        simp only [total, setCount, List.map_cons, if_true, List.sum_cons, hrest]
        omega
      · have hrest : slug ∈ counts.map Prod.fst := by
          simpa [hanchor] using hslug
        have hsum := ih hnodup.2 hrest
        rw [total, total, setCount] at hsum
        simp only [total, setCount, List.map_cons, if_neg hanchor, if_neg (Ne.symm hanchor),
          List.sum_cons]
        omega

/-- A search that ends, whose counters hold no number above the limit. -/
inductive Search.EndsWithin (limit : Nat) (slug : Text) : Nat → Search → Search → Prop
  | done {p : Search} : p.next? slug = none → EndsWithin limit slug 0 p p
  | round {rounds : Nat} {p q e : Search} : p.next? slug = some q → count q.counts slug ≤ limit →
      EndsWithin limit slug rounds q e → EndsWithin limit slug (rounds + 1) p e

theorem Search.EndsWithin.unique {limit : Nat} {slug : Text} {rounds rounds' : Nat}
    {p e e' : Search} (h : EndsWithin limit slug rounds p e)
    (h' : EndsWithin limit slug rounds' p e') : rounds = rounds' ∧ e = e' := by
  induction h generalizing rounds' with
  | done hnone =>
      cases h' with
      | done => exact ⟨rfl, rfl⟩
      | round hnext => rw [hnone] at hnext; cases hnext
  | round hnext _ _ ih =>
      cases h' with
      | done hnone => rw [hnone] at hnext; cases hnext
      | round hnext' _ hrest =>
          rw [hnext] at hnext'
          cases hnext'
          obtain ⟨rfl, rfl⟩ := ih hrest
          exact ⟨rfl, rfl⟩

theorem Search.total_next? {slug : Text} {p q : Search} (hnext : p.next? slug = some q)
    (hnodup : (p.counts.map Prod.fst).Nodup)
    (hslug : p.candidate ≠ slug → slug ∈ p.counts.map Prod.fst) :
    q.counts.map Prod.fst = p.counts.map Prod.fst ∧ slug ∈ p.counts.map Prod.fst ∧
      total q.counts = total p.counts + 1 := by
  by_cases hcandidate : p.candidate ∈ p.counts.map Prod.fst
  · have hmem : slug ∈ p.counts.map Prod.fst := by
      by_cases heq : p.candidate = slug
      · exact heq ▸ hcandidate
      · exact hslug heq
    rw [next?_of_mem hcandidate] at hnext
    cases hnext
    have hsum := total_setCount hnodup hmem (count p.counts slug + 1)
    exact ⟨map_fst_setCount _ _ _, hmem, by simp only; omega⟩
  · rw [next?_of_notMem hcandidate] at hnext
    cases hnext

/-- A search adds to the counters as many times as it makes rounds, so a limit for all counters
together at its end holds for each counter on the way. -/
theorem Search.EndsAfter.endsWithin {slug : Text} {rounds : Nat} {p e : Search}
    (h : EndsAfter slug rounds p e) (limit : Nat) (hnodup : (p.counts.map Prod.fst).Nodup)
    (hslug : p.candidate ≠ slug → slug ∈ p.counts.map Prod.fst) :
    total e.counts = total p.counts + rounds ∧
      (total e.counts ≤ limit → EndsWithin limit slug rounds p e) := by
  induction h with
  | done hnone => exact ⟨rfl, fun _ => .done hnone⟩
  | @round rounds p q e hnext _ ih =>
      obtain ⟨hkeys, hmem, htotal⟩ := total_next? hnext hnodup hslug
      obtain ⟨hsum, hwithin⟩ := ih (hkeys ▸ hnodup) fun _ => hkeys ▸ hmem
      refine ⟨by omega, fun hlimit => .round hnext ?_ (hwithin hlimit)⟩
      have hcount := count_le_total q.counts slug
      omega

/-- A run of a slugger search by search: the anchors that it hands out and the number of rounds
that all its searches make together, with counters that hold no number above the limit. -/
inductive RunsWithin (limit : Nat) :
    Slugger → List Text → List Text → Nat → Slugger → Prop
  | done {s : Slugger} : RunsWithin limit s [] [] 0 s
  | next {s last : Slugger} {t : Text} {texts anchors : List Text} {rounds more : Nat}
      {e : Search} :
      Search.EndsWithin limit (s.style.base t) rounds ⟨s.style.base t, s.counts⟩ e →
        RunsWithin limit ⟨s.style, (e.candidate, 0) :: e.counts⟩ texts anchors more last →
          RunsWithin limit s (t :: texts) (e.candidate :: anchors) (rounds + more) last

theorem RunsWithin.unique {limit : Nat} {s last last' : Slugger}
    {texts anchors anchors' : List Text} {rounds rounds' : Nat}
    (h : RunsWithin limit s texts anchors rounds last)
    (h' : RunsWithin limit s texts anchors' rounds' last') :
    anchors = anchors' ∧ rounds = rounds' ∧ last = last' := by
  induction h generalizing anchors' rounds' with
  | done =>
      cases h'
      exact ⟨rfl, rfl, rfl⟩
  | next hsearch _ ih =>
      cases h' with
      | next hsearch' hrest =>
          obtain ⟨rfl, rfl⟩ := hsearch.unique hsearch'
          obtain ⟨rfl, rfl, rfl⟩ := ih hrest
          exact ⟨rfl, rfl, rfl⟩

theorem runsWithin_run {s : Slugger} (hs : CountersTaken s) (hnodup : s.taken.Nodup)
    (texts : List Text) (limit : Nat) :
    ∃ rounds, total (s.run texts).2.counts = total s.counts + rounds ∧
      (total (s.run texts).2.counts ≤ limit →
        RunsWithin limit s texts (s.run texts).1 rounds (s.run texts).2) := by
  induction texts generalizing s with
  | nil => exact ⟨0, rfl, fun _ => .done⟩
  | cons t texts ih =>
      obtain ⟨rounds, e, hsearch, hclaim⟩ := search_ends_at_claim s (s.style.base t)
      obtain ⟨hrounds, hwithin⟩ :=
        hsearch.endsWithin limit hnodup fun hne => absurd rfl hne
      obtain ⟨more, hmore, hrest⟩ :=
        ih (countersTaken_claim hs (s.style.base t)) (nodup_taken_claim hs hnodup _)
      rw [hclaim] at hmore hrest
      have hnext : s.next t = (e.candidate, ⟨s.style, (e.candidate, 0) :: e.counts⟩) := hclaim
      have hentered : total ((e.candidate, 0) :: e.counts) = total e.counts := by simp [total]
      rw [run_cons, hnext]
      simp only at hrounds hmore hrest ⊢
      refine ⟨rounds + more, by omega, ?_⟩
      intro hlimit
      exact .next (hwithin (by omega)) (hrest hlimit)

/-- After a run of a new slugger over one text or more the keys of the counters are the anchors
handed out, each once, and all counters together are fewer than the texts. The searches of the run
make as many rounds as the counters come to, and do so with every size of counter that holds the
number of texts less one; no other run is possible. -/
theorem run_new_total_lt (style : SlugStyle) (first : Text) (others : List Text) :
    let texts := first :: others
    let run := (new style).run texts
    run.2.taken = run.1.reverse ∧ run.2.taken.Nodup ∧ run.2.counts.length = texts.length ∧
      total run.2.counts ≤ texts.length - 1 ∧
      ∀ (room : Nat) (anchors : List Text) (rounds : Nat) (last : Slugger),
        RunsWithin (texts.length - 1 + room) (new style) texts anchors rounds last ↔
          (anchors, last) = run ∧ rounds = total run.2.counts := by
  intro texts run
  have hinvariant := countersTaken_run (countersTaken_new style) texts
  have hnodup : run.2.taken.Nodup :=
    nodup_taken_run (countersTaken_new style) List.nodup_nil texts
  have htaken : run.2.taken = run.1.reverse := by
    rw [taken_run]
    exact List.append_nil _
  have hlength : run.2.taken.length = texts.length := by
    rw [htaken, List.length_reverse, length_run]
  have htotal : total run.2.counts < texts.length := by
    rw [← hlength]
    refine total_lt_length_taken hinvariant hnodup ?_
    exact List.ne_nil_of_length_eq_add_one hlength
  refine ⟨htaken, hnodup, by rw [← hlength, taken, List.length_map], by omega, ?_⟩
  intro room anchors rounds last
  obtain ⟨made, hmade, hruns⟩ := runsWithin_run (countersTaken_new style) List.nodup_nil texts
    (texts.length - 1 + room)
  have hrun : RunsWithin (texts.length - 1 + room) (new style) texts run.1 made run.2 :=
    hruns (Nat.le_trans (Nat.le_sub_one_of_lt htotal) (Nat.le_add_right _ _))
  have hrounds : total run.2.counts = made := by
    rw [hmade]
    exact Nat.zero_add made
  constructor
  · intro h
    obtain ⟨rfl, rfl, rfl⟩ := h.unique hrun
    exact ⟨rfl, hrounds.symm⟩
  · rintro ⟨heq, rfl⟩
    rw [← heq] at hrun hrounds
    rw [← heq, hrounds]
    exact hrun

example :
    ((new .plain).run ["a".toList, "a".toList, "a".toList, "a-1".toList]).2.counts =
      [("a-1-1".toList, 0), ("a-2".toList, 0), ("a-1".toList, 1), ("a".toList, 2)] := by
  decide +kernel

end DocLinks.Slugger
