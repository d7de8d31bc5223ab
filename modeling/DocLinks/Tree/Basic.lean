import DocLinks.Position
import DocLinks.Text.Basic

namespace DocLinks

/-- A node with its label and its children in order. -/
inductive Tree (α : Type) where
  | node (label : α) (children : List (Tree α))
  deriving Repr

namespace Tree

variable {α : Type}

def label : Tree α → α
  | .node a _ => a

def children : Tree α → List (Tree α)
  | .node _ cs => cs

mutual

def size : Tree α → Nat
  | .node _ cs => forestSize cs + 1

def forestSize : List (Tree α) → Nat
  | [] => 0
  | t :: ts => size t + forestSize ts

end

mutual

def fold {β : Type} (f : α → List β → β) : Tree α → β
  | .node a cs => f a (foldForest f cs)

def foldForest {β : Type} (f : α → List β → β) : List (Tree α) → List β
  | [] => []
  | t :: ts => fold f t :: foldForest f ts

end

end Tree

class Labelled (α : Type) where
  kind : α → Text
  literal : α → Option Text
  position : α → Option Position

/-- A label that gives kind, text and position as they are. -/
structure PlainLabel where
  kind : Text
  literal : Option Text
  position : Option Position
  deriving Repr

instance : Labelled PlainLabel where
  kind := PlainLabel.kind
  literal := PlainLabel.literal
  position := PlainLabel.position

end DocLinks
