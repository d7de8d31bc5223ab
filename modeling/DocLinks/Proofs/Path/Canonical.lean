import DocLinks.Proofs.Path.Names

namespace DocLinks

open DocLinks.Path

/-- Where one more part of the text of a path leads. -/
def Place.stepPart (place : Place) (part : Text) : Place :=
  if part = [] ∨ part = ['.'] then place
  else if part = ['.', '.'] then place.step .parent
  else place ++ [.name part]

namespace Path

/-- Texts of paths in canonical form, with the root or without it. -/
inductive IsCanonical : Bool → Text → Prop
  | rooted {names : List Text} : (∀ part ∈ names, Place.IsName part) →
      IsCanonical true ('/' :: Text.join ['/'] names)
  | relative (climbs : Nat) {names : List Text} : (∀ part ∈ names, Place.IsName part) →
      IsCanonical false (Text.join ['/'] (List.replicate climbs ['.', '.'] ++ names))

/-- Behind the root, if there is one, no part is empty or a single dot. A separator at the end
would leave an empty part behind it. -/
def IsTidy (rooted : Bool) (t : Text) : Prop :=
  let rest := if rooted then t.tail else t
  rest = [] ∨ ∀ part ∈ Text.splitAll '/' rest, isSkipped part = false

end Path

namespace Place

theorem stepPart_eq (place : Place) (part : Text) :
    place.stepPart part =
      match componentOf part with
      | some c => place.step c
      | none => place := by
  rw [stepPart, componentOf]
  by_cases hskipped : part = [] ∨ part = ['.']
  · have hpart : isSkipped part = true := by simpa [isSkipped] using hskipped
    rw [if_pos hskipped, if_pos hpart]
  · have hpart : ¬ isSkipped part = true := by simpa [isSkipped] using hskipped
    rw [if_neg hskipped, if_neg hpart]
    split <;> rfl

theorem foldl_stepPart (place : Place) (parts : List Text) :
    parts.foldl stepPart place = place.steps (parts.filterMap componentOf) := by
  induction parts generalizing place with
  | nil => rfl
  | cons part parts ih =>
      rw [List.foldl_cons, ih, stepPart_eq]
      cases h : componentOf part with
      | none => rw [List.filterMap_cons_none h]
      | some c => rw [List.filterMap_cons_some h]; rfl

theorem ofPath_eq_foldl_parts (p : Path) :
    ofPath p =
      (Text.splitAll '/' p.text).foldl stepPart (if p.isAbsolute then [.root] else []) := by
  rw [foldl_stepPart, ofPath]
  cases hp : p.isAbsolute with
  | true => exact follow_of_isAbsolute hp []
  | false => exact follow_of_not_isAbsolute hp []

theorem IsNormal.exists_names {place : Place} (h : IsNormal place) :
    ∃ (climbs : Nat) (names : List Text), (∀ part ∈ names, IsName part) ∧
      (place = .root :: names.map .name ∨
        place = List.replicate climbs .parent ++ names.map .name) := by
  induction h with
  | root => exact ⟨0, [], by simp, Or.inl rfl⟩
  | ups climbs => exact ⟨climbs, [], by simp, Or.inr (by simp)⟩
  | @name place part _ hpart ih =>
      obtain ⟨climbs, names, hnames, hplace⟩ := ih
      refine ⟨climbs, names ++ [part], ?_, ?_⟩
      · exact List.forall_mem_append.mpr ⟨hnames, List.forall_mem_singleton.mpr hpart⟩
      · rcases hplace with rfl | rfl
        · exact Or.inl (by simp)
        · exact Or.inr (by simp)

theorem text_toPath_rooted (names : List Text) :
    (toPath (.root :: names.map .name)).text = '/' :: Text.join ['/'] names := by
  rw [toPath, map_text_names]

theorem text_toPath_relative (climbs : Nat) {names : List Text}
    (hnames : ∀ part ∈ names, IsName part) :
    (toPath (List.replicate climbs .parent ++ names.map .name)).text =
      Text.join ['/'] (List.replicate climbs ['.', '.'] ++ names) := by
  have hinner : ∀ c ∈ List.replicate climbs Component.parent ++ names.map .name, IsInner c := by
    refine List.forall_mem_append.mpr ⟨?_, fun c hc => isInner_of_mem_names hnames hc⟩
    exact fun c hc => Or.inl (List.eq_of_mem_replicate hc)
  rw [toPath_of_inner hinner, List.map_append, List.map_replicate, map_text_names]
  rfl

theorem isCanonical_toPath {place : Place} {rooted : Bool} (h : IsNormal place)
    (hrooted : place.head? = some .root ↔ rooted = true) :
    IsCanonical rooted place.toPath.text := by
  obtain ⟨climbs, names, hnames, rfl | rfl⟩ := h.exists_names
  · obtain rfl : rooted = true := hrooted.mp rfl
    rw [text_toPath_rooted]
    exact .rooted hnames
  · have hrelative : rooted = false := by
      rw [Bool.eq_false_iff, ne_eq, ← hrooted]
      cases climbs <;> cases names <;> simp [List.replicate_succ]
    rw [hrelative, text_toPath_relative climbs hnames]
    exact .relative climbs hnames

end Place

namespace Path

open Place

theorem isCanonical_normalize (p : Path) : IsCanonical p.isAbsolute p.normalize.text := by
  rw [normalize_eq_toPath]
  exact isCanonical_toPath (isNormal_ofPath p) (head?_ofPath p)

theorem IsCanonical.normalize_eq {rooted : Bool} {t : Text} (h : IsCanonical rooted t) :
    (⟨t⟩ : Path).normalize = ⟨t⟩ := by
  obtain ⟨place, hplace, htext⟩ : ∃ place : Place, IsNormal place ∧ place.toPath.text = t := by
    cases h with
    | @rooted names hnames =>
        exact ⟨_, IsNormal.root.append_names hnames, text_toPath_rooted names⟩
    | relative climbs hnames =>
        exact ⟨_, (IsNormal.ups climbs).append_names hnames, text_toPath_relative climbs hnames⟩
  rw [← htext, normalize_eq_toPath, ofPath_toPath hplace]

theorem normalize_eq_self_iff {p : Path} :
    p.normalize = p ↔ IsCanonical p.isAbsolute p.text := by
  constructor
  · intro h
    have hcanonical := isCanonical_normalize p
    rwa [h] at hcanonical
  · exact IsCanonical.normalize_eq

theorem isTidy_join {parts : List Text} (h : ∀ part ∈ parts, IsPart part) :
    IsTidy false (Text.join ['/'] parts) := by
  by_cases hne : parts = []
  · rw [hne]
    exact Or.inl rfl
  · have hsplit : Text.splitAll '/' (Text.join ['/'] parts) = parts :=
      Text.splitAll_join hne fun part hpart => (h part hpart).2
    right
    change ∀ part ∈ Text.splitAll '/' (Text.join ['/'] parts), isSkipped part = false
    rw [hsplit]
    exact fun part hpart => (h part hpart).1

theorem IsCanonical.isTidy {rooted : Bool} {t : Text} (h : IsCanonical rooted t) :
    IsTidy rooted t := by
  cases h with
  | rooted hnames => exact isTidy_join fun part hpart => (hnames part hpart).isPart
  | relative climbs hnames =>
      apply isTidy_join
      refine List.forall_mem_append.mpr ⟨?_, fun part hpart => (hnames part hpart).isPart⟩
      intro part hpart
      rw [List.eq_of_mem_replicate hpart]
      exact ⟨rfl, by decide⟩

/-- The normal form of a path is tidy and canonical, and only canonical paths are their own normal
forms. It is what following the components of the path comes to, which is what following the parts
of its text comes to, and taking it a second time changes nothing. Two paths have one normal form
exactly when following their components comes to the same. -/
theorem normalize_resolves_lexically (p : Path) :
    let place := p.components.foldl Place.step []
    IsTidy p.isAbsolute p.normalize.text ∧
      IsCanonical p.isAbsolute p.normalize.text ∧
      (p.normalize = p ↔ IsCanonical p.isAbsolute p.text) ∧
      p.normalize = place.toPath ∧
      place =
        (Text.splitAll '/' p.text).foldl Place.stepPart (if p.isAbsolute then [.root] else []) ∧
      p.normalize.normalize = p.normalize ∧
      ∀ q : Path, p.normalize.text = q.normalize.text ↔
        place = q.components.foldl Place.step [] := by
  have hcanonical := isCanonical_normalize p
  refine ⟨hcanonical.isTidy, hcanonical, normalize_eq_self_iff, normalize_eq_toPath p,
    ofPath_eq_foldl_parts p, hcanonical.normalize_eq, ?_⟩
  intro q
  rw [← Path.mk.injEq, normalize_eq_toPath p, normalize_eq_toPath q]
  exact toPath_injective (isNormal_ofPath p) (isNormal_ofPath q)

example : (ofString "a/.././../b//c/.").normalize = ofString "../b/c" ∧
    (ofString "/../a//../b/").normalize = ofString "/b" := by
  decide +kernel

end Path

end DocLinks
