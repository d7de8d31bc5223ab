import DocLinks.Markdown.Element
import DocLinks.Proofs.Tree.TextContent
import Mathlib.Data.List.Basic

namespace DocLinks

open Markdown (Element Node)

/-- The kinds of the nodes that carry a text themselves. -/
def textKinds : List Text :=
  ["text".toList, "inlineCode".toList, "inlineMath".toList, "html".toList]

theorem isSome_literal_element (element : Element) :
    element.literal.isSome = decide (element.kind ∈ textKinds) := by
  cases element <;> rfl

theorem isSome_literal_iff (node : Node) : node.literal.isSome = true ↔ node.kind ∈ textKinds := by
  change node.label.element.literal.isSome = true ↔ _
  rw [isSome_literal_element, decide_eq_true_iff]
  rfl

theorem literals_select_textKinds (root : Node) :
    Tree.literals (root.select textKinds) = Tree.literals root.preorder := by
  have hkinds : ∀ node : Node, node.literal ≠ none → node.kind ∈ textKinds := by
    intro node hliteral
    exact (isSome_literal_iff node).mp (Option.isSome_iff_ne_none.mpr hliteral)
  rw [Tree.literals, Tree.literals, Tree.filterMap_select hkinds]

/-- Collecting text from a stack comes to an end on every tree and gives the text of the root
itself and then, from left to right, the texts of its children. In a document it gives the texts
of the nodes that selection finds for the four kinds with a text, in their order: each of these
nodes has one, and no node of another kind has. -/
theorem collectText_eq_texts_of_select :
    (∀ (α : Type) [Labelled α] (t : Tree α),
      (∀ text, Tree.Collects [t] [] text ↔ text = t.collectText) ∧
        t.collectText = t.textContent) ∧
    ∀ root : Node,
      (∃ texts : List Text,
        (root.select textKinds).map Tree.literal = texts.map some ∧
          root.collectText = texts.flatten) ∧
        ∀ node : Node, node.literal.isSome = true ↔ node.kind ∈ textKinds := by
  refine ⟨fun α _ t => ⟨fun text => Tree.collects_iff, t.collectText_eq_textContent⟩, ?_⟩
  intro root
  refine ⟨⟨(root.select textKinds).filterMap Tree.literal, ?_, ?_⟩, isSome_literal_iff⟩
  · rw [List.map_filterMap, eq_comm, List.filterMap_eq_map_iff_forall_eq_some]
    intro node hnode
    rw [Tree.select_eq_filter, List.mem_filter, decide_eq_true_iff] at hnode
    obtain ⟨text, htext⟩ := Option.isSome_iff_exists.mp ((isSome_literal_iff node).mpr hnode.2)
    rw [htext]
    rfl
  · rw [Tree.collectText_eq_literals_preorder, ← literals_select_textKinds, Tree.literals]

example (leaf : Element → Node) (hleaf : leaf = fun element => .node ⟨element, none⟩ []) :
    (Tree.node ⟨.heading 1, none⟩ [.node ⟨.emphasis, none⟩ [leaf (.text "a".toList)],
      leaf .image, leaf (.html "<b>".toList)] : Node).collectText = "a<b>".toList := by
  rw [Tree.collectText_eq_textContent, hleaf]
  rfl

end DocLinks
