import DocLinks.Markdown.Block.Arrange
import DocLinks.Markdown.Block.Frontmatter
import DocLinks.Markdown.Block.Reader
import DocLinks.Markdown.Inline.Scan
import DocLinks.Markdown.Mdx.Balance

/-!
Reading a Markdown document. Its blocks are read line by line, then the definitions among them are
collected, and then the texts in the blocks are read. Any text is a document; only tags and
expressions can be wrong, where they are read at all.
-/

namespace DocLinks.Markdown

def readFrontmatter (constructs : Constructs) (lines : List Line) : BlockState × List Line :=
  match if constructs.frontmatter then Frontmatter.read lines else none with
  | some (block, closing, rest) =>
      ({ blocks := [block], lastStop := closing.stop, lastNext := closing.next
         lastEnding := closing.ending }, rest)
  | none => ({}, lines)

def readBlocks (constructs : Constructs) (cells : List Cell) (stop : Point) :
    BlockTree × Option Problem :=
  let (s, lines) := readFrontmatter constructs (Line.ofCells cells)
  let s := (lines.foldl (BlockState.readLine constructs) s).finish
  (.node ⟨.document, ⟨⟨1, 1⟩, stop⟩⟩ s.blocks.reverse, s.problem)

/-- A paragraph with a check box: the blank behind the box is no part of it. -/
def dropCheckBlank (start stop : Point) (children : List MarkTree) : MarkTree :=
  match children with
  | .node (.node (.text (c :: value)) position) [] :: rest =>
      let p := position.start
      let (p, value) :=
        if c = '\r' ∧ value.head? = some '\n' then (⟨p.line + 1, 1⟩, value.tail)
        else if c = '\r' ∨ c = '\n' then (⟨p.line + 1, 1⟩, value)
        else if c = ' ' ∨ c = '\t' then ((⟨p.line, p.column + 1⟩ : Point), value)
        else (p, c :: value)
      markNode .paragraph p stop
        (if value.isEmpty then rest else markNode (.text value) p position.stop [] :: rest)
  | _ => markNode .paragraph start stop children

abbrev Checked := MarkTree × Option Problem

def firstProblem (nodes : List Checked) : Option Problem :=
  nodes.findSome? Prod.snd

def parentNode (element : Element) (position : Position) (children : List Checked) : Checked :=
  (markNode element position.start position.stop (children.map Prod.fst), firstProblem children)

def textNode (context : InlineContext) (element : Element) (position : Position)
    (cells : List Cell) : Checked :=
  let (children, problem) := readInline context true cells
  (markNode element position.start position.stop children, problem)

def paragraphNode (context : InlineContext) (mayCheck : Bool) (position : Position)
    (cells : List Cell) : Checked :=
  match if mayCheck && context.constructs.gfm then skipCheckBox cells else none with
  | some rest =>
      let (children, problem) := readInline context false rest
      (dropCheckBlank position.start position.stop children, problem)
  | none => textNode context .paragraph position cells

def rowNode (context : InlineContext) (row : TableRow) : Checked :=
  parentNode .tableRow row.position
    (row.cells.map fun cell =>
      textNode { context with inTable := true } .tableCell cell.position cell.cells)

def nodeOfBlock (context : InlineContext) (label : BlockLabel) (below : List Checked) : Checked :=
  let parent (element : Element) : Checked := parentNode element label.position below
  match label.block with
  | .document => parent .root
  | .quote => parent .blockquote
  | .list => parent .list
  | .item _ => parent .listItem
  | .footnote _ => parent .footnoteDefinition
  | .content lines => textNode context .paragraph label.position (Line.join lines)
  | .underline _ line => textNode context .paragraph label.position line.cells
  | .definition _ url => parent (.definition url)
  | .paragraph mayCheck cells => paragraphNode context mayCheck label.position cells
  | .heading depth cells => textNode context (.heading depth) label.position cells
  | .thematicBreak => parent .thematicBreak
  | .code => parent .code
  | .math => parent .math
  | .html value => parent (.html value)
  | .table rows => parentNode .table label.position (rows.map (rowNode context))
  | .yaml => parent .yaml
  | .toml => parent .toml
  | .expression => parent .mdxFlowExpression
  | .tag tag => (.node (.tag tag false) [], none)

def readChecked (constructs : Constructs) (t : Text) : Node × Option Problem :=
  let cells := Cell.ofText t
  let stop := stopOf cells (Cell.originOf t)
  let (blocks, blockProblem) := readBlocks constructs cells stop
  let document := arrange blocks
  let context : InlineContext :=
    { constructs
      definitions := definedLabels document
      footnotes := footnoteLabels document }
  let (marks, inlineProblem) := document.fold (nodeOfBlock context)
  let root :=
    match Mdx.pairTags marks with
    | .node node => node
    | .tag _ _ => .node ⟨.root, some ⟨⟨1, 1⟩, stop⟩⟩ []
  (root, blockProblem <|> inlineProblem <|> Mdx.balance stop [] (Mdx.eventsOf marks))

/-- The document that a text is in a dialect. -/
def read (dialect : Dialect) (t : Text) : Node :=
  (readChecked dialect.constructs t).1

/-- The document that a text is when some constructs are read, unless its tags and expressions are
wrong. -/
def readWith (constructs : Constructs) (t : Text) : Except CheckError Node :=
  match readChecked constructs t with
  | (_, some problem) => .error problem.toError
  | (root, none) => .ok root

end DocLinks.Markdown
