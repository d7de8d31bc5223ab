import DocLinks.Markdown.Block.Basic
import DocLinks.Markdown.Definition

namespace DocLinks.Markdown

/-- The definitions and the paragraph that lines of text are, of which the fuel is the number. -/
def splitContent (fuel : Nat) (stop : Point) (cells : List Cell) : List BlockTree :=
  match cells with
  | [] => []
  | c :: rest =>
      let paragraph := leafBlock (.paragraph false (c :: rest)) c.point stop
      match fuel, Definition.read (c :: rest) with
      | fuel + 1, some (definition, behind) =>
          leafBlock (.definition definition.label definition.url) c.point
              (Cell.startOf behind stop) ::
            splitContent fuel stop behind.tail
      | _, _ => [paragraph]

/-- Replaces lines of text by what they are. -/
def expandContent (b : BlockTree) : List BlockTree :=
  match b.label.block with
  | .content lines => splitContent lines.length b.label.position.stop (Line.join lines)
  | _ => [b]

def underlineBlock (depth : Nat) (stop : Point) (before : BlockTree) : Option BlockTree :=
  match before.label.block with
  | .paragraph _ cells => some (leafBlock (.heading depth cells) before.label.position.start stop)
  | _ => none

/-- The paragraph that an underline is when it underlines nothing, and the blocks behind it. A
paragraph that follows outside of all containers is part of it. -/
def underlineText (line : Line) (blocks : List BlockTree) : BlockTree × List BlockTree :=
  let alone := leafBlock (.paragraph false line.cells) line.start line.stop
  match blocks with
  | [] => (alone, [])
  | b :: rest =>
      match b.label.block with
      | .paragraph _ cells =>
          let position := b.label.position
          if position.start.line = line.start.line + 1 && position.start.column = 1 then
            (leafBlock (.paragraph false (line.cells ++ line.ending.toList ++ cells)) line.start
              position.stop, rest)
          else (alone, b :: rest)
      | _ => (alone, b :: rest)

/-- Resolves the underlines among so many blocks. The blocks before them come last one first. -/
def arrangeUnderlines (count : Nat) (done blocks : List BlockTree) : List BlockTree :=
  match count, blocks with
  | 0, _ => done.reverse ++ blocks
  | _, [] => done.reverse
  | count + 1, b :: rest =>
      match b.label.block with
      | .underline depth line =>
          match done with
          | before :: earlier =>
              match underlineBlock depth b.label.position.stop before with
              | some heading => arrangeUnderlines count (heading :: earlier) rest
              | none =>
                  let (paragraph, rest) := underlineText line rest
                  arrangeUnderlines count (paragraph :: done) rest
          | [] =>
              let (paragraph, rest) := underlineText line rest
              arrangeUnderlines count [paragraph] rest
      | _ => arrangeUnderlines count (b :: done) rest

def markerOf (b : BlockTree) : Option Char :=
  match b.label.block, b.children with
  | .list, item :: _ =>
      match item.label.block with
      | .item marker => some marker
      | _ => none
  | _, _ => none

/-- Puts a block before others. An item joins a list of items with its marker. -/
def joinItem (b : BlockTree) (blocks : List BlockTree) : List BlockTree :=
  match b.label.block with
  | .item marker =>
      match blocks with
      | list :: rest =>
          if markerOf list = some marker then
            .node ⟨.list, ⟨b.label.position.start, list.label.position.stop⟩⟩
              (b :: list.children) :: rest
          else .node ⟨.list, b.label.position⟩ [b] :: list :: rest
      | [] => [.node ⟨.list, b.label.position⟩ [b]]
  | _ => b :: blocks

/-- Lets the first paragraph of an item, which only definitions may precede, begin with a check
box. -/
def allowCheck (blocks : List BlockTree) : List BlockTree :=
  match blocks with
  | [] => []
  | b :: rest =>
      match b.label.block with
      | .definition _ _ => b :: allowCheck rest
      | .paragraph _ cells => .node ⟨.paragraph true cells, b.label.position⟩ b.children :: rest
      | _ => b :: rest

def arrangeBlocks (blocks : List BlockTree) : List BlockTree :=
  let expanded := blocks.flatMap expandContent
  (arrangeUnderlines expanded.length [] expanded).foldr joinItem []

def arrangeContainer (label : BlockLabel) (blocks : List BlockTree) : BlockTree :=
  match label.block with
  | .item _ => .node label (allowCheck (arrangeBlocks blocks))
  | _ => .node label (arrangeBlocks blocks)

def arrange (document : BlockTree) : BlockTree :=
  document.fold arrangeContainer

def definedLabels (document : BlockTree) : List Text :=
  document.fold fun label below =>
    match label.block with
    | .definition label _ => [label]
    | _ => below.flatten

def footnoteLabels (document : BlockTree) : List Text :=
  document.fold fun label below =>
    match label.block with
    | .footnote label => label :: below.flatten
    | _ => below.flatten

end DocLinks.Markdown
