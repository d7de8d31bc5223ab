import DocLinks.Tree.Select

namespace DocLinks.Markdown

/-- What a node stands for, with the data that links, headings and texts are read from. -/
inductive Element where
  | root
  | paragraph
  | heading (depth : Nat)
  | thematicBreak
  | blockquote
  | list
  | listItem
  | code
  | html (value : Text)
  | definition (url : Text)
  | footnoteDefinition
  | table
  | tableRow
  | tableCell
  | math
  | yaml
  | toml
  | text (value : Text)
  | emphasis
  | strong
  | delete
  | inlineCode (value : Text)
  | inlineMath (value : Text)
  | lineBreak
  | link (url : Text)
  | image
  | linkReference
  | imageReference
  | footnoteReference
  | mdxFlowExpression
  | mdxTextExpression
  | mdxJsxFlowElement
  | mdxJsxTextElement
  | mdxjsEsm
  deriving DecidableEq, Repr

def Element.kind : Element → Text
  | .root => "root".toList
  | .paragraph => "paragraph".toList
  | .heading _ => "heading".toList
  | .thematicBreak => "thematicBreak".toList
  | .blockquote => "blockquote".toList
  | .list => "list".toList
  | .listItem => "listItem".toList
  | .code => "code".toList
  | .html _ => "html".toList
  | .definition _ => "definition".toList
  | .footnoteDefinition => "footnoteDefinition".toList
  | .table => "table".toList
  | .tableRow => "tableRow".toList
  | .tableCell => "tableCell".toList
  | .math => "math".toList
  | .yaml => "yaml".toList
  | .toml => "toml".toList
  | .text _ => "text".toList
  | .emphasis => "emphasis".toList
  | .strong => "strong".toList
  | .delete => "delete".toList
  | .inlineCode _ => "inlineCode".toList
  | .inlineMath _ => "inlineMath".toList
  | .lineBreak => "break".toList
  | .link _ => "link".toList
  | .image => "image".toList
  | .linkReference => "linkReference".toList
  | .imageReference => "imageReference".toList
  | .footnoteReference => "footnoteReference".toList
  | .mdxFlowExpression => "mdxFlowExpression".toList
  | .mdxTextExpression => "mdxTextExpression".toList
  | .mdxJsxFlowElement => "mdxJsxFlowElement".toList
  | .mdxJsxTextElement => "mdxJsxTextElement".toList
  | .mdxjsEsm => "mdxjsEsm".toList

/-- The text that a node carries itself: running text, code and formulas within it, and raw HTML.
-/
def Element.literal : Element → Option Text
  | .text value => some value
  | .inlineCode value => some value
  | .inlineMath value => some value
  | .html value => some value
  | _ => none

/-- The label of a node of a document. Reading gives every node a position; a tree made in another
way may go without. -/
structure Label where
  element : Element
  position : Option Position
  deriving DecidableEq, Repr

instance : Labelled Label where
  kind label := label.element.kind
  literal label := label.element.literal
  position := Label.position

abbrev Node := Tree Label

end DocLinks.Markdown
