import DocLinks.Markdown.Element
import DocLinks.Slug.Slugger

namespace DocLinks

structure Heading where
  /-- One to six. -/
  depth : Nat
  text : Text
  anchor : Text
  position : Option Position
  deriving DecidableEq, Repr

def headingKinds : List Text :=
  ["heading".toList]

def headingsOf (slugger : Slugger) : List Markdown.Node → List Heading
  | [] => []
  | node :: nodes =>
      match node.label.element with
      | .heading depth =>
          let text := node.collectText
          let (anchor, slugger) := slugger.next text
          ⟨depth, text, anchor, node.position⟩ :: headingsOf slugger nodes
      | _ => headingsOf slugger nodes

/-- The headings of a document, in document order, anchored by a slugger. -/
def headingsInTree (slugger : Slugger) (root : Markdown.Node) : List Heading :=
  headingsOf slugger (root.select headingKinds)

end DocLinks
