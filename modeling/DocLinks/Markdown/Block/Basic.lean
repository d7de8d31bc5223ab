import DocLinks.Markdown.Block.Table
import DocLinks.Markdown.Mdx.Tag
import DocLinks.Tree.Basic

namespace DocLinks.Markdown

inductive Block where
  | document
  | quote
  | list
  | item (marker : Char)
  | footnote (label : Text)
  /-- Lines of definitions and a paragraph, not told apart yet. -/
  | content (lines : List Line)
  /-- A line that makes a heading of such a depth out of a paragraph before it. -/
  | underline (depth : Nat) (line : Line)
  | definition (label url : Text)
  /-- A paragraph. The first one of a list item may begin with a check box. -/
  | paragraph (mayCheck : Bool) (cells : List Cell)
  | heading (depth : Nat) (cells : List Cell)
  | thematicBreak
  | code
  | math
  | html (value : Text)
  | table (rows : List TableRow)
  | yaml
  | toml
  | expression
  | tag (tag : Mdx.Tag)
  deriving Repr

structure BlockLabel where
  block : Block
  position : Position
  deriving Repr

abbrev BlockTree := Tree BlockLabel

def leafBlock (block : Block) (start stop : Point) : BlockTree :=
  .node ⟨block, ⟨start, stop⟩⟩ []

end DocLinks.Markdown
