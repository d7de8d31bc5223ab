import DocLinks.Tree.Basic

namespace DocLinks.Tree

variable {α : Type}

mutual

/-- Every node before its children, and children from left to right. -/
def preorder : Tree α → List (Tree α)
  | .node a cs => .node a cs :: preorderForest cs

def preorderForest : List (Tree α) → List (Tree α)
  | [] => []
  | t :: ts => preorder t ++ preorderForest ts

end

theorem forestSize_append (ts us : List (Tree α)) :
    forestSize (ts ++ us) = forestSize ts + forestSize us := by
  induction ts with
  | nil => simp [forestSize]
  | cons t ts ih => simp [forestSize, ih, Nat.add_assoc]

variable [Labelled α]

def kind (t : Tree α) : Text :=
  Labelled.kind t.label

def literal (t : Tree α) : Option Text :=
  Labelled.literal t.label

def position (t : Tree α) : Option Position :=
  Labelled.position t.label

/-- The nodes of the given kinds among those on the stack and below them: the top node is taken
off, its children go on, and the node is given out when its kind is asked for. -/
def selectFrom (kinds : List Text) : List (Tree α) → List (Tree α)
  | [] => []
  | .node a cs :: stack =>
      if Labelled.kind a ∈ kinds then .node a cs :: selectFrom kinds (cs ++ stack)
      else selectFrom kinds (cs ++ stack)
  termination_by stack => forestSize stack
  decreasing_by all_goals simp [forestSize, size, forestSize_append]

/-- The nodes of the given kinds, children of selected nodes included, in document order. -/
def select (kinds : List Text) (t : Tree α) : List (Tree α) :=
  selectFrom kinds [t]

def textFrom : List (Tree α) → Text
  | [] => []
  | .node a cs :: stack => (Labelled.literal a).getD [] ++ textFrom (cs ++ stack)
  termination_by stack => forestSize stack
  decreasing_by simp [forestSize, size, forestSize_append]

/-- The texts carried by a node and the nodes below it, in document order. -/
def collectText (t : Tree α) : Text :=
  textFrom [t]

end DocLinks.Tree
