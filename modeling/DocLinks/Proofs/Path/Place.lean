import DocLinks.Path.Normal
import DocLinks.Proofs.Path.Components

/-!
Places: what is left of a path when every component is followed in order, on lists of components
and without any text. The normal form of a path is its place written down, and reading it gives
the place back; so normal forms are equal exactly when places are.
-/

namespace DocLinks

/-- The components that lead to a place. -/
abbrev Place := List Path.Component

namespace Place

open DocLinks.Path

/-- Where one more component leads. A double dot takes away a name; it stays where there is none
to take away, but for the root, above which there is nothing. -/
def step (place : Place) : Component → Place
  | .root => [.root]
  | .current => place
  | .name part => place ++ [.name part]
  | .parent =>
      match place.getLast? with
      | some (.name _) => place.dropLast
      | some .root => place
      | _ => place ++ [.parent]

def steps (place : Place) (components : List Component) : Place :=
  components.foldl step place

/-- Where a path leads when it is seen from a place. -/
def follow (place : Place) (p : Path) : Place :=
  place.steps p.components

def ofPath (p : Path) : Place :=
  follow [] p

/-- Names that lead from a directory to one of its entries. -/
def IsName (part : Text) : Prop :=
  componentOf part = some (.name part) ∧ '/' ∉ part

/-- Places as they are left: the root, or double dots, and then names. -/
inductive IsNormal : Place → Prop
  | root : IsNormal [.root]
  | ups (n : Nat) : IsNormal (List.replicate n .parent)
  | name {place : Place} {part : Text} : IsNormal place → IsName part →
      IsNormal (place ++ [.name part])

/-- Components that can stand behind the first one of a path. -/
def IsInner (c : Component) : Prop :=
  c = .parent ∨ ∃ part, IsName part ∧ c = .name part

theorem isName_iff {part : Text} :
    IsName part ↔ part ≠ [] ∧ part ≠ ['.'] ∧ part ≠ ['.', '.'] ∧ '/' ∉ part := by
  rw [IsName, componentOf]
  by_cases hskipped : isSkipped part = true
  · have : part = [] ∨ part = ['.'] := by simpa [isSkipped] using hskipped
    rcases this with rfl | rfl <;> simp [isSkipped]
  · have : part ≠ [] ∧ part ≠ ['.'] := by simpa [isSkipped] using hskipped
    by_cases hdots : part = ['.', '.'] <;> simp [hskipped, hdots, this]

theorem IsName.isPart {part : Text} (h : IsName part) : IsPart part := by
  obtain ⟨hnil, hdot, _, hslash⟩ := isName_iff.mp h
  exact ⟨by simp [isSkipped, hnil, hdot], hslash⟩

theorem isInner_of_mem_named {t : Text} {c : Component} (h : c ∈ named t) : IsInner c := by
  obtain ⟨part, hpart, hc⟩ := List.mem_filterMap.mp h
  have hslash := Text.notMem_of_mem_splitAll hpart
  rw [componentOf] at hc
  split at hc
  · simp at hc
  next hskipped =>
    split at hc
    · exact Or.inl (Option.some.inj hc).symm
    next hdots =>
      have hname : IsName part := by
        refine ⟨?_, hslash⟩
        rw [componentOf, if_neg hskipped, if_neg hdots]
      exact Or.inr ⟨part, hname, (Option.some.inj hc).symm⟩

theorem steps_append (place : Place) (cs ds : List Component) :
    place.steps (cs ++ ds) = (place.steps cs).steps ds :=
  List.foldl_append

theorem follow_of_isAbsolute {p : Path} (h : p.isAbsolute = true) (place : Place) :
    place.follow p = steps [.root] (named p.text) := by
  rw [follow, components_of_isAbsolute h]
  rfl

theorem follow_of_not_isAbsolute {p : Path} (h : p.isAbsolute = false) (place : Place) :
    place.follow p = place.steps (named p.text) := by
  rw [follow, components_eq, steps_append]
  rcases start_cases p with ⟨rest, htext, _⟩ | ⟨_, hstart⟩ | ⟨_, _, hstart⟩ | ⟨_, hstart⟩
  · rw [isAbsolute_iff.mpr ⟨rest, htext⟩] at h
    exact absurd h (by decide)
  all_goals
    rw [hstart]
    rfl

theorem follow_join (place : Place) (p q : Path) :
    place.follow (p.join q) = (place.follow p).follow q := by
  cases hq : q.isAbsolute with
  | true =>
      have hjoin : p.join q = q := by
        rw [join, push, if_pos hq]
      rw [hjoin, follow_of_isAbsolute hq, follow_of_isAbsolute hq]
  | false =>
      have hnamed := named_join_of_not_isAbsolute (p := p) hq
      rw [follow_of_not_isAbsolute hq]
      cases hp : p.isAbsolute with
      | true =>
          rw [follow_of_isAbsolute (by rw [isAbsolute_join, hp, Bool.true_or]),
            follow_of_isAbsolute hp, hnamed, steps_append]
      | false =>
          rw [follow_of_not_isAbsolute (by rw [isAbsolute_join, hp, hq, Bool.false_or]),
            follow_of_not_isAbsolute hp, hnamed, steps_append]

@[simp] theorem step_parent_concat_name (place : Place) (part : Text) :
    step (place ++ [.name part]) .parent = place := by
  simp [step]

@[simp] theorem step_parent_replicate (ups : Nat) :
    step (List.replicate ups .parent) .parent = List.replicate (ups + 1) .parent := by
  rw [step, List.replicate_succ']
  cases ups <;> simp [List.getLast?_replicate]

theorem IsNormal.step {place : Place} {c : Component} (h : IsNormal place) (hc : IsInner c) :
    IsNormal (place.step c) := by
  rcases hc with rfl | ⟨part, hpart, rfl⟩
  · cases h with
    | root => exact .root
    | ups n => rw [step_parent_replicate]; exact .ups (n + 1)
    | name hplace _ => rwa [step_parent_concat_name]
  · exact h.name hpart

theorem head?_concat_name (place : Place) (part : Text) :
    (place ++ [Component.name part]).head? = some .root ↔ place.head? = some .root := by
  cases place <;> simp

theorem head?_step {place : Place} {c : Component} (h : IsNormal place) (hc : IsInner c) :
    (place.step c).head? = some .root ↔ place.head? = some .root := by
  rcases hc with rfl | ⟨part, _, rfl⟩
  · cases h with
    | root => rfl
    | ups n =>
        rw [step_parent_replicate]
        cases n <;> simp [List.replicate_succ]
    | name hplace _ => rw [step_parent_concat_name, head?_concat_name]
  · exact head?_concat_name place part

theorem IsNormal.inner {place : Place} (h : IsNormal place) :
    (∃ rest, place = .root :: rest ∧ ∀ c ∈ rest, IsInner c) ∨ ∀ c ∈ place, IsInner c := by
  induction h with
  | root => exact Or.inl ⟨[], rfl, by simp⟩
  | ups n => exact Or.inr fun c hc => Or.inl (List.eq_of_mem_replicate hc)
  | @name place part _ hpart ih =>
      have hlast : IsInner (.name part) := Or.inr ⟨part, hpart, rfl⟩
      rcases ih with ⟨rest, rfl, hrest⟩ | hplace
      · refine Or.inl ⟨rest ++ [.name part], rfl, ?_⟩
        exact List.forall_mem_append.mpr ⟨hrest, List.forall_mem_singleton.mpr hlast⟩
      · exact Or.inr (List.forall_mem_append.mpr ⟨hplace, List.forall_mem_singleton.mpr hlast⟩)

theorem IsNormal.steps {place : Place} {cs : List Component} (h : IsNormal place)
    (hcs : ∀ c ∈ cs, IsInner c) : IsNormal (place.steps cs) := by
  induction cs generalizing place with
  | nil => exact h
  | cons c cs ih =>
      have hc := h.step (hcs c List.mem_cons_self)
      exact ih hc fun d hd => hcs d (List.mem_cons_of_mem c hd)

theorem head?_steps {place : Place} {cs : List Component} (h : IsNormal place)
    (hcs : ∀ c ∈ cs, IsInner c) :
    (place.steps cs).head? = some .root ↔ place.head? = some .root := by
  induction cs generalizing place with
  | nil => rfl
  | cons c cs ih =>
      have hc := hcs c List.mem_cons_self
      exact (ih (h.step hc) fun d hd => hcs d (List.mem_cons_of_mem c hd)).trans (head?_step h hc)

theorem IsNormal.follow {place : Place} (h : IsNormal place) (p : Path) :
    IsNormal (place.follow p) := by
  cases hp : p.isAbsolute with
  | true =>
      rw [follow_of_isAbsolute hp]
      exact IsNormal.root.steps fun c hc => isInner_of_mem_named hc
  | false =>
      rw [follow_of_not_isAbsolute hp]
      exact h.steps fun c hc => isInner_of_mem_named hc

theorem isNormal_ofPath (p : Path) : IsNormal (ofPath p) :=
  (IsNormal.ups 0).follow p

theorem head?_ofPath (p : Path) : (ofPath p).head? = some .root ↔ p.isAbsolute = true := by
  have hinner : ∀ c ∈ named p.text, IsInner c := fun c hc => isInner_of_mem_named hc
  cases hp : p.isAbsolute with
  | true =>
      rw [ofPath, follow_of_isAbsolute hp, head?_steps .root hinner]
      simp
  | false =>
      rw [ofPath, follow_of_not_isAbsolute hp]
      exact (head?_steps (IsNormal.ups 0) hinner).trans (by simp)

end Place

end DocLinks
