import DocLinks.Proofs.Path.Normalize
import Mathlib.Data.List.Induction

namespace DocLinks

open DocLinks.Path

namespace Place

theorem steps_step (place : Place) {left : Place} {c : Component} (hleft : IsNormal left)
    (hrelative : left.head? ≠ some .root) (hc : IsInner c) :
    place.steps (left.step c) = (place.steps left).step c := by
  rcases hc with rfl | ⟨part, _, rfl⟩
  · cases hleft with
    | root => exact absurd rfl hrelative
    | ups climbs =>
        rw [step_parent_replicate, List.replicate_succ', steps_append]
        rfl
    | @name left part _ _ =>
        rw [step_parent_concat_name, steps_append]
        exact (step_parent_concat_name _ part).symm
  · exact steps_append place left [.name part]

theorem steps_steps_nil (place : Place) {cs : List Component} (hcs : ∀ c ∈ cs, IsInner c) :
    place.steps (steps [] cs) = place.steps cs := by
  induction cs using List.reverseRecOn with
  | nil => rfl
  | append_singleton cs c ih =>
      obtain ⟨hfront, hlast⟩ := List.forall_mem_append.mp hcs
      have hnormal : IsNormal (steps [] cs) := (IsNormal.ups 0).steps hfront
      have hrelative : (steps [] cs).head? ≠ some .root :=
        mt (head?_steps (IsNormal.ups 0) hfront).mp (by simp)
      rw [steps_append, steps_append, ← ih hfront]
      exact steps_step place hnormal hrelative (hlast c List.mem_cons_self)

theorem follow_normalize (place : Place) (p : Path) :
    place.follow p.normalize = place.follow p := by
  have hinner : ∀ q : Path, ∀ c ∈ named q.text, IsInner c := fun q c hc => isInner_of_mem_named hc
  have hplace := ofPath_normalize p
  cases hp : p.isAbsolute with
  | true =>
      have hnormal : p.normalize.isAbsolute = true := by rw [isAbsolute_normalize, hp]
      -- From the root on it makes no difference where the path was seen from.
      rw [ofPath, ofPath, follow_of_isAbsolute hnormal, follow_of_isAbsolute hp] at hplace
      rw [follow_of_isAbsolute hnormal, follow_of_isAbsolute hp, hplace]
  | false =>
      have hnormal : p.normalize.isAbsolute = false := by rw [isAbsolute_normalize, hp]
      rw [ofPath, ofPath, follow_of_not_isAbsolute hnormal, follow_of_not_isAbsolute hp] at hplace
      rw [follow_of_not_isAbsolute hnormal, follow_of_not_isAbsolute hp,
        ← steps_steps_nil place (hinner p.normalize), hplace, steps_steps_nil place (hinner p)]

theorem normalize_join (p q : Path) :
    (p.join q).normalize = ((ofPath p).follow q).toPath := by
  rw [normalize_eq_toPath, ofPath, follow_join]
  rfl

end Place

namespace Path

open Place

/-- The normal form of a joined path can be taken in stages, of either part first. So it depends
on the second part only through where that leads, and two second parts are the same for every
first part exactly when they have one normal form. -/
theorem normalize_join_in_stages (a b b' : Path) :
    (a.join b).normalize = (a.normalize.join b).normalize ∧
      (a.join b).normalize = (a.join b.normalize).normalize ∧
      (b.normalize = b'.normalize ↔
        ∀ first : Path, (first.join b).normalize = (first.join b').normalize) := by
  have hsecond : ∀ first second : Path,
      (first.join second).normalize = (first.join second.normalize).normalize := by
    intro first second
    rw [normalize_join, normalize_join, follow_normalize]
  refine ⟨?_, hsecond a b, ?_, ?_⟩
  · rw [normalize_join, normalize_join_normalize]
  · intro h first
    rw [hsecond first b, hsecond first b', h]
  · intro h
    have hempty := h ⟨[]⟩
    rw [normalize_join, normalize_join] at hempty
    rw [normalize_eq_toPath, normalize_eq_toPath]
    exact hempty

example : ((ofString "/a/b").join (ofString "./x/../../.././../c")).normalize = ofString "/c" := by
  decide +kernel

end Path

end DocLinks
