import DocLinks.Heading
import DocLinks.Proofs.Slug.Uniqueness
import DocLinks.Proofs.Tree.Select
import DocLinks.Proofs.Tree.TextContent

namespace DocLinks

open Markdown (Element Node)

def Markdown.Element.depth? : Element → Option Nat
  | .heading depth => some depth
  | _ => none

/-- A heading as it stands in a document, without its anchor. -/
structure Heading.Outline where
  depth : Nat
  text : Text
  position : Option Position
  deriving DecidableEq, Repr

def Heading.outline (heading : Heading) : Heading.Outline :=
  ⟨heading.depth, heading.text, heading.position⟩

def outlineOfNode (node : Node) : Option Heading.Outline :=
  node.label.element.depth?.map fun depth => ⟨depth, node.textContent, node.position⟩

theorem headingsOf_cons (slugger : Slugger) (node : Node) (nodes : List Node) :
    headingsOf slugger (node :: nodes) =
      match outlineOfNode node with
      | some ⟨depth, text, position⟩ =>
          ⟨depth, text, (slugger.next text).1, position⟩ :: headingsOf (slugger.next text).2 nodes
      | none => headingsOf slugger nodes := by
  rw [headingsOf, outlineOfNode]
  split
  next depth hheading =>
    rw [hheading, Tree.collectText_eq_textContent]
    rfl
  next hother =>
    rw [Markdown.Element.depth?]
    · rfl
    · exact hother

theorem map_anchor_headingsOf (slugger : Slugger) (nodes : List Node) :
    (headingsOf slugger nodes).map Heading.anchor =
      (slugger.run ((headingsOf slugger nodes).map Heading.text)).1 := by
  induction nodes generalizing slugger with
  | nil => rfl
  | cons node nodes ih =>
      rw [headingsOf_cons]
      cases outlineOfNode node with
      | none => exact ih slugger
      | some outline =>
          rw [List.map_cons, List.map_cons, Slugger.run_cons, ih]

end DocLinks
