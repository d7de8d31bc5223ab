import DocLinks.Proofs.Path.Place

namespace DocLinks

open DocLinks.Path

def Path.Component.text : Component → Text
  | .root => []
  | .current => ['.']
  | .parent => ['.', '.']
  | .name part => part

namespace Place

/-- A place written down, without a component to spare. -/
def toPath : Place → Path
  | .root :: rest => ⟨'/' :: Text.join ['/'] (rest.map Component.text)⟩
  | place => ⟨Text.join ['/'] (place.map Component.text)⟩

theorem IsInner.isPart {c : Component} (h : IsInner c) : IsPart c.text := by
  rcases h with rfl | ⟨part, hpart, rfl⟩
  · exact ⟨rfl, by decide⟩
  · exact hpart.isPart

theorem IsInner.componentOf_text {c : Component} (h : IsInner c) : componentOf c.text = some c := by
  rcases h with rfl | ⟨part, hpart, rfl⟩
  · rfl
  · exact hpart.1

theorem IsInner.ne_root {c : Component} (h : IsInner c) : c ≠ .root := by
  rcases h with rfl | ⟨part, _, rfl⟩ <;> simp

theorem toPath_of_inner {place : Place} (h : ∀ c ∈ place, IsInner c) :
    place.toPath = ⟨Text.join ['/'] (place.map Component.text)⟩ := by
  cases place with
  | nil => rfl
  | cons c rest =>
      have hc := (h c List.mem_cons_self).ne_root
      cases c <;> first | rfl | exact absurd rfl hc

theorem named_join_texts {cs : List Component} (h : ∀ c ∈ cs, IsInner c) :
    named (Text.join ['/'] (cs.map Component.text)) = cs := by
  rw [named_join]
  · rw [List.filterMap_map]
    induction cs with
    | nil => rfl
    | cons c cs ih =>
        have hc : (componentOf ∘ Component.text) c = some c :=
          (h c List.mem_cons_self).componentOf_text
        rw [List.filterMap_cons_some hc, ih fun d hd => h d (List.mem_cons_of_mem c hd)]
  · intro part hpart
    obtain ⟨c, hc, rfl⟩ := List.mem_map.mp hpart
    exact (h c hc).isPart.2

theorem components_toPath {place : Place} (h : IsNormal place) :
    place.toPath.components = place := by
  rcases h.inner with ⟨rest, rfl, hrest⟩ | hplace
  · have habsolute : (toPath (.root :: rest)).isAbsolute = true := rfl
    rw [components_of_isAbsolute habsolute, toPath, named_slash_cons, named_join_texts hrest]
  · rw [toPath_of_inner hplace, components_eq, named_join_texts hplace]
    cases place with
    | nil => rfl
    | cons c rest =>
        rw [List.map_cons, start_join (hplace c List.mem_cons_self).isPart]
        rfl

theorem exists_join_texts_eq_concat {cs : List Component} (hne : cs ≠ [])
    (h : ∀ c ∈ cs, IsInner c) :
    ∃ before last, Text.join ['/'] (cs.map Component.text) = before ++ [last] ∧ last ≠ '/' := by
  have hslash : ∀ part ∈ cs.map Component.text, '/' ∉ part := by
    intro part hpart
    obtain ⟨c, hc, rfl⟩ := List.mem_map.mp hpart
    exact (h c hc).isPart.2
  have hempty : ([] : Text) ∉ cs.map Component.text := by
    intro hmem
    obtain ⟨c, hc, hnil⟩ := List.mem_map.mp hmem
    exact (h c hc).isPart.ne_nil hnil
  have hsplit := Text.splitAll_join (by simpa using hne) hslash
  rcases (Text.join ['/'] (cs.map Component.text)).eq_nil_or_concat with hnil | ⟨before, last, heq⟩
  · rw [hnil] at hsplit
    exact absurd (hsplit ▸ List.mem_cons_self) hempty
  · refine ⟨before, last, by simpa using heq, ?_⟩
    rintro rfl
    rw [heq, List.concat_eq_append, Text.splitAll_append_cons] at hsplit
    exact absurd (hsplit ▸ List.mem_append_right _ List.mem_cons_self) hempty

theorem push_toPath {place : Place} {c : Component} (h : IsNormal place) (hc : IsInner c) :
    place.toPath.push ⟨c.text⟩ = toPath (place ++ [c]) := by
  have hjoin : ∀ cs : List Component, cs ≠ [] →
      Text.join ['/'] ((cs ++ [c]).map Component.text) =
        Text.join ['/'] (cs.map Component.text) ++ '/' :: c.text := by
    intro cs hne
    rw [List.map_append, List.map_singleton, Text.join_append_singleton _ _ (by simpa using hne),
      List.append_assoc, List.singleton_append]
  rw [push, hc.isPart.isAbsolute_eq_false]
  rcases h.inner with ⟨rest, rfl, hrest⟩ | hplace
  · rw [List.cons_append, toPath, toPath]
    by_cases hne : rest = []
    · subst hne
      rfl
    · obtain ⟨before, last, hlast, hslash⟩ := exists_join_texts_eq_concat hne hrest
      rw [hjoin rest hne, hlast]
      simp [List.getLast?_cons, hslash]
  · have hall : ∀ d ∈ place ++ [c], IsInner d :=
      List.forall_mem_append.mpr ⟨hplace, List.forall_mem_singleton.mpr hc⟩
    rw [toPath_of_inner hplace, toPath_of_inner hall]
    by_cases hne : place = []
    · subst hne
      rfl
    · obtain ⟨before, last, hlast, hslash⟩ := exists_join_texts_eq_concat hne hplace
      rw [hjoin place hne, hlast]
      simp [hslash]

theorem parent_toPath {place : Place} {part : Text} (h : IsNormal place) (hpart : IsName part) :
    (toPath (place ++ [Component.name part])).parent? = some place.toPath := by
  have hlast : IsInner (Component.name part) := Or.inr ⟨part, hpart, rfl⟩
  have hsplit : ∀ cs : List Component, (∀ c ∈ cs, IsInner c) →
      Text.splitAll '/' (Text.join ['/'] ((cs ++ [Component.name part]).map Component.text)) =
          cs.map Component.text ++ [part] ∧
        ∀ other ∈ cs.map Component.text ++ [part], isSkipped other = false := by
    intro cs hcs
    have hparts : ∀ other ∈ cs.map Component.text ++ [part], IsPart other :=
      List.forall_mem_append.mpr ⟨List.forall_mem_map.mpr fun c hc => (hcs c hc).isPart,
        List.forall_mem_singleton.mpr hpart.isPart⟩
    refine ⟨?_, fun other hother => (hparts other hother).1⟩
    rw [List.map_append, List.map_singleton]
    exact Text.splitAll_join (by simp) fun other hother => (hparts other hother).2
  rcases h.inner with ⟨rest, rfl, hrest⟩ | hplace
  · obtain ⟨hparts, hskipped⟩ := hsplit rest hrest
    have hbody : (toPath (.root :: rest ++ [Component.name part])).body =
        Text.join ['/'] ((rest ++ [Component.name part]).map Component.text) := rfl
    rw [parent?_eq_some (hbody ▸ hparts) hskipped, hbody]
    simp [toPath]
  · obtain ⟨hparts, hskipped⟩ := hsplit place hplace
    have hall : ∀ d ∈ place ++ [Component.name part], IsInner d :=
      List.forall_mem_append.mpr ⟨hplace, List.forall_mem_singleton.mpr hlast⟩
    have hstart : (toPath (place ++ [Component.name part])).start = none := by
      rw [toPath_of_inner hall]
      cases place with
      | nil => exact start_join hpart.isPart []
      | cons c cs => exact start_join (hplace c List.mem_cons_self).isPart _
    have hbody : (toPath (place ++ [Component.name part])).body =
        Text.join ['/'] ((place ++ [Component.name part]).map Component.text) := by
      rw [body, hstart, toPath_of_inner hall]
      rfl
    rw [parent?_eq_some (hbody ▸ hparts) hskipped, hbody, toPath_of_inner hall,
      toPath_of_inner hplace]
    simp

theorem normalStep_toPath {place : Place} {c : Component} {rooted : Bool} (h : IsNormal place)
    (hrooted : rooted = true ↔ place.head? = some .root) (hc : IsInner c) :
    normalStep rooted place.toPath c = (place.step c).toPath := by
  rcases hc with rfl | ⟨part, hpart, rfl⟩
  · rw [normalStep]
    simp only [components_toPath h]
    cases h with
    | root => rfl
    | ups n =>
        have hrelative : rooted = false := by
          rw [Bool.eq_false_iff, ne_eq, hrooted]
          cases n <;> simp [List.replicate_succ]
        rw [step_parent_replicate, List.replicate_succ', hrelative]
        have hpush := push_toPath (IsNormal.ups n) (Or.inl rfl : IsInner .parent)
        cases n with
        | zero => exact hpush
        | succ n => simpa [List.getLast?_replicate, Component.text] using hpush
    | name hplace hpart =>
        rw [step_parent_concat_name]
        simp [parent_toPath hplace hpart]
  · exact push_toPath h (Or.inr ⟨part, hpart, rfl⟩)

theorem foldl_normalStep_toPath {place : Place} {cs : List Component} {rooted : Bool}
    (h : IsNormal place) (hrooted : rooted = true ↔ place.head? = some .root)
    (hcs : ∀ c ∈ cs, IsInner c) :
    cs.foldl (normalStep rooted) place.toPath = (place.steps cs).toPath := by
  induction cs generalizing place with
  | nil => rfl
  | cons c cs ih =>
      have hc := hcs c List.mem_cons_self
      rw [List.foldl_cons, normalStep_toPath h hrooted hc]
      exact ih (h.step hc) (hrooted.trans (head?_step h hc).symm)
        fun d hd => hcs d (List.mem_cons_of_mem c hd)

/-- The normal form of a path is its place written down. -/
theorem normalize_eq_toPath (p : Path) : p.normalize = (ofPath p).toPath := by
  have hinner : ∀ c ∈ named p.text, IsInner c := fun c hc => isInner_of_mem_named hc
  rw [Path.normalize, ofPath]
  cases hp : p.isAbsolute with
  | true =>
      rw [follow_of_isAbsolute hp, components_of_isAbsolute hp]
      exact foldl_normalStep_toPath .root (by simp) hinner
  | false =>
      have hfold := @foldl_normalStep_toPath [] (named p.text) false (IsNormal.ups 0) (by simp)
        hinner
      rw [follow_of_not_isAbsolute hp, components_eq, List.foldl_append]
      rcases start_cases p with ⟨rest, htext, _⟩ | ⟨_, hstart⟩ | ⟨_, _, hstart⟩ | ⟨_, hstart⟩
      · rw [isAbsolute_iff.mpr ⟨rest, htext⟩] at hp
        exact absurd hp (by decide)
      all_goals
        rw [hstart]
        exact hfold

theorem components_normalize (p : Path) : p.normalize.components = ofPath p := by
  rw [normalize_eq_toPath, components_toPath (isNormal_ofPath p)]

theorem steps_normal {place : Place} (h : IsNormal place) : steps [] place = place := by
  induction h with
  | root => rfl
  | ups n =>
      induction n with
      | zero => rfl
      | succ n ih =>
          rw [List.replicate_succ', steps_append, ih]
          simp [steps, List.replicate_succ']
  | name _ _ ih =>
      rw [steps_append, ih]
      rfl

theorem ofPath_toPath {place : Place} (h : IsNormal place) : ofPath place.toPath = place := by
  rw [ofPath, follow, components_toPath h, steps_normal h]

theorem ofPath_normalize (p : Path) : ofPath p.normalize = ofPath p := by
  rw [normalize_eq_toPath, ofPath_toPath (isNormal_ofPath p)]

theorem isAbsolute_normalize (p : Path) : p.normalize.isAbsolute = p.isAbsolute := by
  rw [Bool.eq_iff_iff, ← head?_ofPath, ofPath_normalize, head?_ofPath]

theorem normalize_join_normalize (p q : Path) :
    (p.normalize.join q).normalize = ((ofPath p).follow q).toPath := by
  rw [normalize_eq_toPath, ofPath, follow_join]
  change ((ofPath p.normalize).follow q).toPath = _
  rw [ofPath_normalize]

theorem toPath_injective {place other : Place} (h : IsNormal place) (h' : IsNormal other) :
    place.toPath = other.toPath ↔ place = other := by
  constructor
  · intro heq
    rw [← components_toPath h, ← components_toPath h', heq]
  · intro heq
    rw [heq]

end Place

end DocLinks
