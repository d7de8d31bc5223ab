import DocLinks.Proofs.Text.Cut
import Mathlib.Data.List.Chain
import Mathlib.Data.List.Destutter
import Mathlib.Data.List.DropRight

namespace DocLinks.Text

variable {p : Char → Bool}

/-- The maximal runs of characters that satisfy `p`, in order. -/
def runsOf (p : Char → Bool) (t : Text) : List Text :=
  (t.splitOnP fun c => !p c).filter (· ≠ [])

/-- Every run of `c` reduced to a single `c`. -/
def collapse (c : Char) (t : Text) : Text :=
  t.destutter fun a b => ¬(a = c ∧ b = c)

theorem run_induction {motive : Text → Prop}
    (run : ∀ w, (∀ c ∈ w, p c = true) → motive w)
    (next : ∀ w c rest, (∀ d ∈ w, p d = true) → p c = false → motive rest →
      motive (w ++ c :: rest))
    (t : Text) : motive t := by
  suffices h : ∀ w, (∀ d ∈ w, p d = true) → motive (w ++ t) from h [] (by simp)
  induction t with
  | nil =>
      intro w hw
      rw [List.append_nil]
      exact run w hw
  | cons c rest ih =>
      intro w hw
      cases hc : p c with
      | false => exact next w c rest hw hc (ih [] (by simp))
      | true =>
          have hwc : ∀ d ∈ w ++ [c], p d = true :=
            List.forall_mem_append.mpr ⟨hw, List.forall_mem_singleton.mpr hc⟩
          have hlonger := ih (w ++ [c]) hwc
          rwa [List.append_assoc, List.singleton_append] at hlonger

@[simp] theorem runsOf_nil : runsOf p [] = [] := rfl

theorem runsOf_of_forall {w : Text} (hne : w ≠ []) (h : ∀ c ∈ w, p c = true) :
    runsOf p w = [w] := by
  have hsplit : w.splitOnP (fun c => !p c) = [w] :=
    List.splitOnP_eq_singleton fun c hc => by simp [h c hc]
  simp [runsOf, hsplit, hne]

theorem runsOf_append_cons (s t : Text) {c : Char} (hc : p c = false) :
    runsOf p (s ++ c :: t) = runsOf p s ++ runsOf p t := by
  rw [runsOf, List.splitOnP_append_cons s t (by simp [hc]), List.filter_append]
  rfl

theorem ne_nil_of_mem_runsOf {t run : Text} (h : run ∈ runsOf p t) : run ≠ [] := by
  simpa using (List.mem_filter.mp h).2

theorem runsOf_congr {q : Char → Bool} {t : Text} (h : ∀ c ∈ t, p c = q c) :
    runsOf p t = runsOf q t := by
  have hsplit : t.splitOnP (fun c => !p c) = t.splitOnP fun c => !q c := by
    induction t with
    | nil => rfl
    | cons c rest ih =>
        obtain ⟨hc, hrest⟩ := List.forall_mem_cons.mp h
        rw [List.splitOnP_cons_eq_if_modifyHead, List.splitOnP_cons_eq_if_modifyHead, hc, ih hrest]
  rw [runsOf, hsplit]
  rfl

theorem isChain_iff_not_isInfix {c : Char} {t : Text} :
    t.IsChain (fun a b => ¬(a = c ∧ b = c)) ↔ ¬[c, c] <:+: t := by
  constructor
  · rintro hchain ⟨before, behind, rfl⟩
    have hpair := List.isChain_pair.mp hchain.left_of_append.right_of_append
    exact hpair ⟨rfl, rfl⟩
  · intro hfree
    apply (List.isChain_isInfix t).imp
    rintro a b hpair ⟨rfl, rfl⟩
    exact hfree hpair

section Join

variable (separator : Text) {parts more : List Text}

theorem join_eq_nil_iff (h : ∀ part ∈ parts, part ≠ []) :
    join separator parts = [] ↔ parts = [] := by
  rcases parts with _ | ⟨part, _ | ⟨next, parts⟩⟩
  · simp [join]
  · simpa [join] using h
  · simp [join, h part List.mem_cons_self]

theorem join_append_eq_join_pair (h : ∀ part ∈ parts, part ≠ [])
    (h' : ∀ part ∈ more, part ≠ []) :
    join separator (parts ++ more) =
      join separator ([join separator parts, join separator more].filter (· ≠ [])) := by
  have hparts := join_eq_nil_iff separator h
  have hmore := join_eq_nil_iff separator h'
  by_cases hnil : parts = []
  · by_cases hnil' : more = []
    · simp [hnil, hnil', join]
    · have hne : join separator more ≠ [] := fun heq => hnil' (hmore.mp heq)
      simp [hnil, join, hne]
  · have hne : join separator parts ≠ [] := fun heq => hnil (hparts.mp heq)
    by_cases hnil' : more = []
    · simp [hnil', join, hne]
    · have hne' : join separator more ≠ [] := fun heq => hnil' (hmore.mp heq)
      rw [join_append hnil hnil']
      simp [join, hne, hne']

end Join

section Trim

theorem dropEndWhile_eq_rdropWhile (t : Text) : dropEndWhile p t = t.rdropWhile p := rfl

theorem dropEndWhile_append (s t : Text) :
    dropEndWhile p (s ++ t) =
      if dropEndWhile p t = [] then dropEndWhile p s else s ++ dropEndWhile p t := by
  simp only [dropEndWhile, List.reverse_append, List.dropWhile_append, List.isEmpty_iff,
    List.reverse_eq_nil_iff]
  split
  · rfl
  · simp

theorem dropEndWhile_of_forall {t : Text} (h : ∀ c ∈ t, p c = false) : dropEndWhile p t = t := by
  rw [dropEndWhile_eq_rdropWhile, List.rdropWhile_eq_self_iff]
  intro hne
  simp [h _ (List.getLast_mem hne)]

theorem trimWhile_isInfix (t : Text) : trimWhile p t <:+: t :=
  (List.rdropWhile_prefix p (t.dropWhile p)).isInfix.trans (List.dropWhile_suffix p).isInfix

theorem head?_trimWhile (t : Text) {c : Char} (hc : p c = true) :
    (trimWhile p t).head? ≠ some c := by
  intro hhead
  obtain ⟨rest, hrest⟩ := List.head?_eq_some_iff.mp hhead
  have hprefix : c :: rest <+: t.dropWhile p := hrest ▸ List.rdropWhile_prefix p _
  obtain ⟨more, hmore⟩ := hprefix
  have hnot := List.head?_dropWhile_not p t
  rw [← hmore] at hnot
  simp [hc] at hnot

theorem getLast?_trimWhile (t : Text) {c : Char} (hc : p c = true) :
    (trimWhile p t).getLast? ≠ some c := by
  intro hlast
  rw [trimWhile, dropEndWhile, List.getLast?_reverse] at hlast
  have hnot := List.head?_dropWhile_not p (t.dropWhile p).reverse
  rw [hlast] at hnot
  simp [hc] at hnot

theorem trimWhile_eq_self {t : Text} (hhead : ∀ c ∈ t.head?, p c = false)
    (hlast : ∀ c ∈ t.getLast?, p c = false) : trimWhile p t = t := by
  have hdrop : t.dropWhile p = t := by
    cases t with
    | nil => rfl
    | cons c rest => exact List.dropWhile_cons_of_neg (by simp [hhead c rfl])
  rw [trimWhile, hdrop, dropEndWhile_eq_rdropWhile, List.rdropWhile_eq_self_iff]
  intro hne
  simp [hlast _ (List.getLast?_eq_some_getLast hne)]

end Trim

end DocLinks.Text
