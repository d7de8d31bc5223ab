import DocLinks.Markdown.Element
import DocLinks.Markdown.Mdx.Tag

namespace DocLinks.Markdown

inductive Mark where
  | node (element : Element) (position : Position)
  | tag (tag : Mdx.Tag) (inText : Bool)
  deriving DecidableEq, Repr

abbrev MarkTree := Tree Mark

def markNode (element : Element) (start stop : Point) (children : List MarkTree) : MarkTree :=
  .node (.node element ⟨start, stop⟩) children

def consText (value : Text) (start stop : Point) (nodes : List MarkTree) : List MarkTree :=
  match nodes with
  | .node (.node (.text more) position) [] :: rest =>
      markNode (.text (value ++ more)) start position.stop [] :: rest
  | _ => markNode (.text value) start stop [] :: nodes

end DocLinks.Markdown
