import DocLinks.Proofs.Path.Normalize

namespace DocLinks

open DocLinks.Path

namespace Place

def Avoids (place : Place) (c : Char) : Prop :=
  ∀ d ∈ place, c ∉ d.text

variable {place : Place} {c : Char}

theorem Avoids.append {other : Place} (h : place.Avoids c) (h' : other.Avoids c) :
    Avoids (place ++ other) c :=
  List.forall_mem_append.mpr ⟨h, h'⟩

theorem Avoids.step {d : Component} (h : place.Avoids c) (hd : c ∉ d.text) :
    (place.step d).Avoids c := by
  have hlast : Avoids [d] c := List.forall_mem_singleton.mpr hd
  cases d with
  | root => exact hlast
  | current => exact h
  | name part => exact h.append hlast
  | parent =>
      rw [Place.step]
      split
      · exact fun d hmem => h d (place.dropLast_subset hmem)
      · exact h
      · exact h.append hlast

theorem Avoids.steps {cs : List Component} (h : place.Avoids c)
    (hcs : ∀ d ∈ cs, c ∉ d.text) : (place.steps cs).Avoids c := by
  induction cs generalizing place with
  | nil => exact h
  | cons d cs ih =>
      obtain ⟨hd, hrest⟩ := List.forall_mem_cons.mp hcs
      exact ih (h.step hd) hrest

theorem notMem_text_of_mem_components {p : Path} (hdot : c ≠ '.') (h : c ∉ p.text) :
    ∀ d ∈ p.components, c ∉ d.text := by
  intro d hd
  rw [components_eq, List.mem_append] at hd
  rcases hd with hstart | hnamed
  · rcases start_cases p with ⟨_, _, heq⟩ | ⟨_, heq⟩ | ⟨_, _, heq⟩ | ⟨_, heq⟩
    all_goals simp_all [Component.text]
  · obtain ⟨part, hpart, hcomponent⟩ := List.mem_filterMap.mp hnamed
    have hnot : c ∉ part := fun hmem => h (Text.subset_of_mem_splitAll hpart hmem)
    rw [componentOf] at hcomponent
    split at hcomponent
    · simp at hcomponent
    · split at hcomponent
      all_goals
        obtain rfl := Option.some.inj hcomponent
        simp_all [Component.text]

theorem Avoids.follow {p : Path} (hdot : c ≠ '.') (h : place.Avoids c) (hp : c ∉ p.text) :
    (place.follow p).Avoids c :=
  h.steps (notMem_text_of_mem_components hdot hp)

theorem avoids_ofPath {p : Path} (hdot : c ≠ '.') (h : c ∉ p.text) : (ofPath p).Avoids c :=
  Avoids.follow hdot (by simp [Avoids]) h

theorem Avoids.notMem_toPath (hslash : c ≠ '/') (h : place.Avoids c) : c ∉ place.toPath.text := by
  have hjoin : ∀ cs : List Component, (∀ d ∈ cs, c ∉ d.text) →
      c ∉ Text.join ['/'] (cs.map Component.text) := by
    intro cs hcs
    exact Text.notMem_join (by simpa using hslash) (List.forall_mem_map.mpr hcs)
  unfold toPath
  split
  next rest =>
    have hrest := hjoin rest fun d hd => h d (List.mem_cons_of_mem _ hd)
    simp [hslash, hrest]
  next => exact hjoin place h

end Place

theorem Path.notMem_join {c : Char} {p q : Path} (hslash : c ≠ '/') (hp : c ∉ p.text)
    (hq : c ∉ q.text) : c ∉ (p.join q).text := by
  rw [join, push]
  split
  · exact hq
  · split <;> simp [hslash, hp, hq]

end DocLinks
