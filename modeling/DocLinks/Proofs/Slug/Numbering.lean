import Mathlib.Data.List.Nodup
import Mathlib.Data.List.Perm.Subperm
import DocLinks.Slug.Slugger

namespace DocLinks.Slugger

theorem ofNat_injective : Function.Injective Text.ofNat := by
  intro m n h
  have hvalue := congrArg (fun digits => Nat.ofDigitChars 10 digits 0) h
  simpa [Text.ofNat] using hvalue

theorem numbered_injective (slug : Text) : Function.Injective (numbered slug) := by
  intro m n h
  have hdigits : '-' :: Text.ofNat m = '-' :: Text.ofNat n := List.append_cancel_left h
  exact ofNat_injective (List.cons.inj hdigits).2

theorem le_length_of_numbered_mem (slug : Text) (k : Nat) {n : Nat} {taken : List Text}
    (h : ∀ i, i < k → numbered slug (n + 1 + i) ∈ taken) : k ≤ taken.length := by
  let run := (List.range k).map fun i => numbered slug (n + 1 + i)
  have hnodup : run.Nodup := by
    refine List.nodup_range.map ?_
    intro i j hij
    have := numbered_injective slug hij
    omega
  have hsubset : run ⊆ taken := by
    intro anchor hanchor
    obtain ⟨i, hi, rfl⟩ := List.mem_map.mp hanchor
    exact h i (List.mem_range.mp hi)
  simpa [run] using (hnodup.subperm hsubset).length_le

theorem lt_firstFree (taken : List Text) (slug : Text) (fuel n : Nat) :
    n < firstFree taken slug fuel n := by
  induction fuel generalizing n with
  | zero => exact Nat.lt_succ_self n
  | succ fuel ih =>
      rw [firstFree]
      split
      · exact Nat.lt_trans (Nat.lt_succ_self n) (ih (n + 1))
      · exact Nat.lt_succ_self n

theorem numbered_mem_of_lt_firstFree {taken : List Text} {slug : Text} {fuel n i : Nat}
    (hlow : n < i) (hhigh : i < firstFree taken slug fuel n) : numbered slug i ∈ taken := by
  induction fuel generalizing n with
  | zero =>
      rw [firstFree] at hhigh
      omega
  | succ fuel ih =>
      rw [firstFree] at hhigh
      split at hhigh
      next htaken =>
        rcases Nat.eq_or_lt_of_le hlow with heq | hlt
        · exact heq ▸ htaken
        · exact ih hlt hhigh
      next => omega

theorem firstFree_notMem_or (taken : List Text) (slug : Text) (fuel n : Nat) :
    numbered slug (firstFree taken slug fuel n) ∉ taken ∨
      firstFree taken slug fuel n = n + 1 + fuel := by
  induction fuel generalizing n with
  | zero => exact Or.inr rfl
  | succ fuel ih =>
      rw [firstFree]
      split
      next =>
        rcases ih (n + 1) with hfree | hlast
        · exact Or.inl hfree
        · exact Or.inr (by omega)
      next hfree => exact Or.inl hfree

theorem numbered_firstFree_notMem (taken : List Text) (slug : Text) (n : Nat) :
    numbered slug (firstFree taken slug taken.length n) ∉ taken := by
  rcases firstFree_notMem_or taken slug taken.length n with hfree | hlast
  · exact hfree
  · intro hmem
    have hcovered : taken.length + 1 ≤ taken.length := by
      apply le_length_of_numbered_mem slug (taken.length + 1) (n := n)
      intro i hi
      rcases Nat.eq_or_lt_of_le (Nat.le_of_lt_succ hi) with heq | hlt
      · rw [heq, ← hlast]
        exact hmem
      · have hbelow : n + 1 + i < firstFree taken slug taken.length n := by
          rw [hlast]
          omega
        exact numbered_mem_of_lt_firstFree (by omega) hbelow
    omega

end DocLinks.Slugger
