import DocLinks.Tree.Select

/-!
Selection as a walk, call by call, and what it gives. The walk keeps a stack of nodes and goes on
in rounds; each call ends at the next node of the kinds, and after the last one a call ends with
an empty stack. Together the calls give the nodes of the kinds in preorder.
-/

namespace DocLinks.Tree

variable {α : Type}

/-- One round of the walk: the node at the end of the stack is taken off, and its children are put
on, the first of them last. -/
def unstack? (stack : List (Tree α)) : Option (Tree α × List (Tree α)) :=
  stack.getLast?.map fun t => (t, stack.dropLast ++ t.children.reverse)

def pending (stack : List (Tree α)) : List (Tree α) :=
  preorderForest stack.reverse

theorem unstack?_concat (stack : List (Tree α)) (t : Tree α) :
    unstack? (stack ++ [t]) = some (t, stack ++ t.children.reverse) := by
  simp [unstack?]

theorem unstack?_reverse (a : α) (cs stack : List (Tree α)) :
    unstack? (Tree.node a cs :: stack).reverse = some (.node a cs, (cs ++ stack).reverse) := by
  rw [List.reverse_cons, unstack?_concat, List.reverse_append]
  rfl

theorem preorderForest_append (ts us : List (Tree α)) :
    preorderForest (ts ++ us) = preorderForest ts ++ preorderForest us := by
  induction ts with
  | nil => rfl
  | cons t ts ih => rw [List.cons_append, preorderForest, preorderForest, ih, List.append_assoc]

theorem pending_of_unstack? {stack rest : List (Tree α)} {t : Tree α}
    (h : unstack? stack = some (t, rest)) : pending stack = t :: pending rest := by
  rcases List.eq_nil_or_concat stack with rfl | ⟨front, last, rfl⟩
  · cases h
  · rw [List.concat_eq_append, unstack?_concat] at h
    cases h
    obtain ⟨a, cs⟩ := t
    simp [pending, preorderForest, preorder, preorderForest_append, children]

theorem pending_of_unstack?_eq_none {stack : List (Tree α)} (h : unstack? stack = none) :
    pending stack = [] := by
  have hempty : stack = [] := by simpa [unstack?] using h
  rw [hempty]
  rfl

variable [Labelled α] {kinds : List Text}

/-- One call: rounds until a node of the kinds is taken off or none is left. -/
inductive Next (kinds : List Text) : List (Tree α) → Option (Tree α) → List (Tree α) → Prop
  | ended {stack : List (Tree α)} : unstack? stack = none → Next kinds stack none stack
  | found {stack rest : List (Tree α)} {t : Tree α} : unstack? stack = some (t, rest) →
      t.kind ∈ kinds → Next kinds stack (some t) rest
  | passed {stack rest left : List (Tree α)} {t : Tree α} {answer : Option (Tree α)} :
      unstack? stack = some (t, rest) → t.kind ∉ kinds → Next kinds rest answer left →
        Next kinds stack answer left

/-- The answers of all calls, up to the first that has none. -/
inductive Yields (kinds : List Text) : List (Tree α) → List (Tree α) → Prop
  | ended {stack left : List (Tree α)} : Next kinds stack none left → Yields kinds stack []
  | found {stack left nodes : List (Tree α)} {t : Tree α} : Next kinds stack (some t) left →
      Yields kinds left nodes → Yields kinds stack (t :: nodes)

theorem Next.filter_pending {stack left : List (Tree α)} {answer : Option (Tree α)}
    (h : Next kinds stack answer left) :
    (pending stack).filter (fun node => node.kind ∈ kinds) =
      answer.toList ++ (pending left).filter fun node => node.kind ∈ kinds := by
  induction h with
  | ended hround => rfl
  | found hround hkind =>
      rw [pending_of_unstack? hround, List.filter_cons_of_pos (by simpa using hkind)]
      rfl
  | passed hround hkind _ ih =>
      rw [pending_of_unstack? hround, List.filter_cons_of_neg (by simpa using hkind), ih]

theorem Next.pending_eq_nil {stack left : List (Tree α)} {answer : Option (Tree α)}
    (h : Next kinds stack answer left) (hanswer : answer = none) : pending left = [] := by
  induction h with
  | ended hround => exact pending_of_unstack?_eq_none hround
  | found => cases hanswer
  | passed _ _ _ ih => exact ih hanswer

theorem Yields.eq_filter {stack nodes : List (Tree α)} (h : Yields kinds stack nodes) :
    nodes = (pending stack).filter fun node => node.kind ∈ kinds := by
  induction h with
  | ended hnext =>
      rw [hnext.filter_pending, hnext.pending_eq_nil rfl]
      rfl
  | found hnext _ ih => rw [hnext.filter_pending, ← ih]; rfl

theorem Yields.passed {stack rest nodes : List (Tree α)} {t : Tree α}
    (hround : unstack? stack = some (t, rest)) (hkind : t.kind ∉ kinds)
    (h : Yields kinds rest nodes) : Yields kinds stack nodes := by
  cases h with
  | ended hnext => exact .ended (.passed hround hkind hnext)
  | found hnext hrest => exact .found (.passed hround hkind hnext) hrest

theorem yields_selectFrom (kinds : List Text) (stack : List (Tree α)) :
    Yields kinds stack.reverse (selectFrom kinds stack) := by
  fun_induction selectFrom kinds stack with
  | case1 => exact .ended (.ended rfl)
  | case2 a cs stack hkind ih => exact .found (.found (unstack?_reverse a cs stack) hkind) ih
  | case3 a cs stack hkind ih => exact ih.passed (unstack?_reverse a cs stack) hkind

theorem select_eq_filter (kinds : List Text) (t : Tree α) :
    t.select kinds = t.preorder.filter fun node => node.kind ∈ kinds := by
  have hpending : pending [t] = t.preorder := by
    rw [pending, List.reverse_singleton, preorderForest, preorderForest, List.append_nil]
  rw [← hpending]
  exact (yields_selectFrom kinds [t]).eq_filter

theorem filterMap_select {β : Type} {f : Tree α → Option β}
    (h : ∀ node, f node ≠ none → node.kind ∈ kinds) (t : Tree α) :
    (t.select kinds).filterMap f = t.preorder.filterMap f := by
  rw [select_eq_filter, List.filterMap_filter]
  congr 1
  funext node
  by_cases hkind : node.kind ∈ kinds
  · simp [hkind]
  · have hnone : f node = none := Decidable.of_not_not fun hsome => hkind (h node hsome)
    simp [hkind, hnone]

end DocLinks.Tree
