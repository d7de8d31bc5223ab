import DocLinks.Proofs.Path.Normalize
import Mathlib.Data.List.Induction

namespace DocLinks

open DocLinks.Path

/-- The relative path down some names. -/
def Path.ofNames (names : List Text) : Path :=
  ⟨Text.join ['/'] names⟩

/-- A destination that climbs some directories and goes down some names. -/
def Path.climbing (climbs : Nat) (names : List Text) : Text :=
  "./".toList ++ (List.replicate climbs "../".toList).flatten ++ Text.join ['/'] names

namespace Place

variable {names : List Text}

theorem IsNormal.append_names {place : Place} (h : IsNormal place)
    (hnames : ∀ part ∈ names, IsName part) : IsNormal (place ++ names.map .name) := by
  induction names generalizing place with
  | nil => simpa using h
  | cons part names ih =>
      have hpart := h.name (hnames part List.mem_cons_self)
      have hrest := ih hpart fun other hother => hnames other (List.mem_cons_of_mem part hother)
      simpa using hrest

theorem steps_names (place : Place) (names : List Text) :
    place.steps (names.map .name) = place ++ names.map .name := by
  induction names generalizing place with
  | nil => simp [steps]
  | cons part names ih =>
      have hrest := ih (place ++ [.name part])
      rw [List.append_assoc] at hrest
      exact hrest

theorem steps_parents (place : Place) (names : List Text) :
    (place ++ names.map Component.name).steps (List.replicate names.length .parent) = place := by
  induction names using List.reverseRecOn with
  | nil => simp [steps]
  | append_singleton names part ih =>
      rw [List.map_append, List.map_singleton, ← List.append_assoc, List.length_append,
        List.length_singleton, List.replicate_succ, steps, List.foldl_cons,
        step_parent_concat_name]
      exact ih

theorem isInner_of_mem_names (hnames : ∀ part ∈ names, IsName part) {c : Component}
    (h : c ∈ names.map Component.name) : IsInner c := by
  obtain ⟨part, hpart, rfl⟩ := List.mem_map.mp h
  exact Or.inr ⟨part, hnames part hpart, rfl⟩

theorem map_text_names (names : List Text) :
    (names.map Component.name).map Component.text = names := by
  rw [List.map_map]
  exact List.map_id names

theorem components_ofNames (hnames : ∀ part ∈ names, IsName part) :
    (ofNames names).components = names.map .name := by
  have hnormal : IsNormal (names.map Component.name) :=
    (IsNormal.ups 0).append_names hnames
  have hpath : ofNames names = toPath (names.map .name) := by
    rw [toPath_of_inner fun c hc => isInner_of_mem_names hnames hc, map_text_names, ofNames]
  rw [hpath, components_toPath hnormal]

theorem named_climbs (climbs : Nat) (t : Text) :
    named ((List.replicate climbs "../".toList).flatten ++ t) =
      List.replicate climbs .parent ++ named t := by
  induction climbs with
  | zero => rfl
  | succ climbs ih =>
      rw [List.replicate_succ, List.flatten_cons, List.append_assoc, List.replicate_succ,
        List.cons_append, ← ih]
      exact named_append_cons ['.', '.'] _

theorem named_climbing (climbs : Nat) (hnames : ∀ part ∈ names, IsName part) :
    named (climbing climbs names) = List.replicate climbs .parent ++ names.map .name := by
  have htexts : named (Text.join ['/'] names) = names.map .name := by
    have hread := named_join_texts fun c hc => isInner_of_mem_names hnames hc
    rwa [map_text_names] at hread
  rw [← htexts, ← named_climbs, climbing, List.append_assoc]
  exact named_dot_slash_cons _

theorem follow_climbing (place : Place) (directories : List Text)
    (hnames : ∀ part ∈ names, IsName part) :
    (place ++ directories.map Component.name).follow ⟨climbing directories.length names⟩ =
      place ++ names.map .name := by
  have hrelative : (⟨climbing directories.length names⟩ : Path).isAbsolute = false := rfl
  rw [follow_of_not_isAbsolute hrelative, named_climbing _ hnames, steps_append, steps_parents,
    steps_names]

end Place

theorem Path.notMem_climbing {c : Char} (hdot : c ≠ '.') (hslash : c ≠ '/') (climbs : Nat)
    {names : List Text} (hnames : ∀ part ∈ names, c ∉ part) : c ∉ climbing climbs names := by
  have hjoin : c ∉ Text.join ['/'] names := Text.notMem_join (by simpa using hslash) hnames
  simp [climbing, hdot, hslash, hjoin]

end DocLinks
