import DocLinks.Proofs.Tree.Select

namespace DocLinks.Tree

variable {α : Type} [Labelled α]

mutual

/-- The text that a node carries itself and then the texts of its children, from left to right. -/
def textContent : Tree α → Text
  | .node a cs => (Labelled.literal a).getD [] ++ forestTextContent cs

def forestTextContent : List (Tree α) → Text
  | [] => []
  | t :: ts => textContent t ++ forestTextContent ts

end

theorem forestTextContent_append (ts us : List (Tree α)) :
    forestTextContent (ts ++ us) = forestTextContent ts ++ forestTextContent us := by
  induction ts with
  | nil => rfl
  | cons t ts ih =>
      rw [List.cons_append, forestTextContent, forestTextContent, ih, List.append_assoc]

theorem textFrom_eq_forestTextContent (stack : List (Tree α)) :
    textFrom stack = forestTextContent stack := by
  fun_induction textFrom stack with
  | case1 => rfl
  | case2 a cs stack ih =>
      rw [ih, forestTextContent_append, forestTextContent, textContent, List.append_assoc]

theorem collectText_eq_textContent (t : Tree α) : t.collectText = t.textContent := by
  rw [collectText, textFrom_eq_forestTextContent, forestTextContent, forestTextContent,
    List.append_nil]

def literals (nodes : List (Tree α)) : Text :=
  (nodes.filterMap literal).flatten

theorem literals_cons (t : Tree α) (nodes : List (Tree α)) :
    literals (t :: nodes) = t.literal.getD [] ++ literals nodes := by
  cases hliteral : t.literal <;> simp [literals, hliteral]

theorem textFrom_eq_literals (stack : List (Tree α)) :
    textFrom stack = literals (preorderForest stack) := by
  fun_induction textFrom stack with
  | case1 => rfl
  | case2 a cs stack ih =>
      rw [ih, preorderForest, preorder, List.cons_append, literals_cons, preorderForest_append]
      rfl

theorem collectText_eq_literals_preorder (t : Tree α) : t.collectText = literals t.preorder := by
  rw [collectText, textFrom_eq_literals, preorderForest, preorderForest, List.append_nil]

/-- The loop that collects text, from a stack and the text collected so far: a round takes a node
off the stack and adds the text of that node, and the loop ends when the stack is empty. -/
inductive Collects : List (Tree α) → Text → Text → Prop
  | ended {stack : List (Tree α)} {text : Text} : unstack? stack = none → Collects stack text text
  | round {stack rest : List (Tree α)} {t : Tree α} {text result : Text} :
      unstack? stack = some (t, rest) → Collects rest (text ++ t.literal.getD []) result →
        Collects stack text result

theorem Collects.eq_append {stack : List (Tree α)} {text result : Text}
    (h : Collects stack text result) : result = text ++ literals (pending stack) := by
  induction h with
  | ended hround =>
      rw [pending_of_unstack?_eq_none hround]
      exact (List.append_nil _).symm
  | round hround _ ih => rw [ih, pending_of_unstack? hround, literals_cons, List.append_assoc]

theorem collects_textFrom (stack : List (Tree α)) (text : Text) :
    Collects stack.reverse text (text ++ textFrom stack) := by
  fun_induction textFrom stack generalizing text with
  | case1 =>
      rw [List.append_nil]
      exact .ended rfl
  | case2 a cs stack ih =>
      rw [← List.append_assoc]
      exact .round (unstack?_reverse a cs stack) (ih _)

theorem collects_iff {t : Tree α} {text : Text} :
    Collects [t] [] text ↔ text = t.collectText := by
  have hloop : Collects [t] [] t.collectText := collects_textFrom [t] []
  constructor
  · intro h
    rw [h.eq_append, hloop.eq_append]
  · rintro rfl
    exact hloop

end DocLinks.Tree
