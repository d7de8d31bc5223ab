import DocLinks.Markdown.Block.Container
import DocLinks.Markdown.Html.Block
import DocLinks.Markdown.Mdx.Line

namespace DocLinks.Markdown

/-- A container that has begun, with its blocks so far, the last one first. -/
structure OpenContainer where
  container : Container
  start : Point
  blocks : List BlockTree

namespace OpenContainer

def block (c : OpenContainer) : Block :=
  match c.container with
  | .quote => .quote
  | .item marker _ _ => .item marker
  | .footnote label => .footnote label

def close (c : OpenContainer) (stop : Point) : BlockTree :=
  .node ⟨c.block, ⟨c.start, stop⟩⟩ c.blocks.reverse

end OpenContainer

/-- A leaf that further lines may belong to. Lines and rows are kept with the last one first. -/
inductive OpenLeaf where
  | none
  /-- Lines of text. The last one may be the head of a table with so many cells. -/
  | content (lines : List Line) (head : Option Nat)
  /-- No leaf, but the last line was the underline of a heading. -/
  | underlined
  | table (start stop : Point) (rows : List TableRow)
  | fenced (fence : Fence)
  | html (kind : Html.BlockKind) (start : Point) (value : Text)
  | indented (start stop : Point)
  | mdx (lines : List Line) (blocks : List BlockTree) (unfinished : Mdx.Unfinished)

namespace OpenLeaf

/-- Whether lines that stay in all containers belong to the leaf whatever they look like. -/
def isConcrete : OpenLeaf → Bool
  | .fenced _ | .html .. | .mdx .. => true
  | _ => false

/-- Whether a further line of text belongs to a paragraph even if it does not stay in the
containers. -/
def acceptsLazy : OpenLeaf → Bool
  | .content .. | .underlined => true
  | _ => false

end OpenLeaf

structure BlockState where
  /-- The blocks of the document itself, the last one first. -/
  blocks : List BlockTree := []
  /-- The open containers, the innermost first. -/
  containers : List OpenContainer := []
  leaf : OpenLeaf := .none
  /-- Whether a block that begins now would interrupt a paragraph. -/
  interrupting : Bool := false
  /-- Whether the last line did not stay in all containers. -/
  wasLazy : Bool := false
  /-- The ends of the last line, before and behind its ending, and the ending. -/
  lastStop : Point := ⟨1, 1⟩
  lastNext : Point := ⟨1, 1⟩
  lastEnding : Option Cell := none
  problem : Option Problem := none

namespace BlockState

def addBlock (s : BlockState) (b : BlockTree) : BlockState :=
  match s.containers with
  | [] => { s with blocks := b :: s.blocks }
  | c :: cs => { s with containers := { c with blocks := b :: c.blocks } :: cs }

def addBlocks (s : BlockState) (bs : List BlockTree) : BlockState :=
  bs.foldl addBlock s

def addProblem (s : BlockState) (p : Problem) : BlockState :=
  { s with problem := s.problem <|> some p }

def closeInnermost (s : BlockState) (stop : Point) : BlockState :=
  match s.containers with
  | [] => s
  | c :: cs => { s with containers := cs }.addBlock (c.close stop)

def closeContainers (s : BlockState) (stop : Point) : Nat → BlockState
  | 0 => s
  | n + 1 => (s.closeInnermost stop).closeContainers stop n

def closeBeyond (s : BlockState) (kept : Nat) (stop : Point) : BlockState :=
  { s.closeContainers stop (s.containers.length - kept) with interrupting := false }

def openContainer (s : BlockState) (container : Container) (start : Point) : BlockState :=
  { s with containers := ⟨container, start, []⟩ :: s.containers }

def fencedBlock (fence : Fence) (stop : Point) : BlockTree :=
  leafBlock (if fence.marker == '$' then .math else .code) fence.start stop

def contentBlock (lines : List Line) : BlockTree :=
  match lines with
  | [] => leafBlock (.content []) ⟨1, 1⟩ ⟨1, 1⟩
  | line :: more => leafBlock (.content (line :: more)) line.start (Line.stopOf more line.stop)

def endLeaf (s : BlockState) : BlockState :=
  let closed := { s with leaf := .none }
  match s.leaf with
  | .none | .underlined => closed
  | .content lines _ => closed.addBlock (contentBlock lines.reverse)
  | .table start stop rows => closed.addBlock (leafBlock (.table rows.reverse) start stop)
  | .fenced fence => { closed with interrupting := false }.addBlock (fencedBlock fence s.lastStop)
  | .html _ start value =>
      { closed with interrupting := false }.addBlock (leafBlock (.html value) start s.lastStop)
  | .indented start stop =>
      { closed with interrupting := false }.addBlock (leafBlock .code start stop)
  | .mdx lines _ _ => closed.addBlock (contentBlock lines.reverse)

/-- Whether the open leaf takes the ending of the last line when nothing of it follows. -/
def takesEnding (s : BlockState) : Bool :=
  !s.wasLazy &&
    match s.leaf with
    | .fenced _ => true
    | .html kind _ _ => !kind.endsBeforeBlank
    | _ => false

/-- Where the document ends when nothing follows the last line, and with it whatever is open. -/
def endPoint (s : BlockState) : Point :=
  if s.takesEnding then s.lastNext else s.lastStop

def cutLeaf (s : BlockState) : BlockState :=
  let closed := { s with leaf := .none, interrupting := false }
  match s.leaf with
  | .fenced fence => closed.addBlock (fencedBlock fence s.endPoint)
  | .html _ start value =>
      closed.addBlock <|
        leafBlock
          (.html (if s.takesEnding then value ++ Cell.sourceOf s.lastEnding.toList else value))
          start s.endPoint
  | .mdx _ _ (.expression _ _) => s.endLeaf.addProblem (Problem.unclosedExpression s.lastNext)
  | .mdx _ _ (.tag state _) =>
      match state.atEnd s.lastNext with
      | some p => s.endLeaf.addProblem p
      | none => s.endLeaf
  | _ => { s.endLeaf with interrupting := false }

def finish (s : BlockState) : BlockState :=
  s.cutLeaf.closeBeyond 0 s.endPoint

end BlockState

end DocLinks.Markdown
