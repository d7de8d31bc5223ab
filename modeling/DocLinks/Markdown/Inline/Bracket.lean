import DocLinks.Markdown.Destination
import DocLinks.Markdown.Identifier
import DocLinks.Markdown.Inline.Emphasis

namespace DocLinks.Markdown

inductive BracketKind where
  | link
  | image
  | footnote
  deriving DecidableEq, Repr

structure Bracket where
  kind : BracketKind
  opening : List Cell
  start : Point
  behind : List Cell
  /-- Whether a link inside it keeps it from becoming one itself. -/
  inactive : Bool
  /-- The pieces before it, the last one first. -/
  before : List Piece

def readResource (cells : List Cell) : Option (Text × List Cell) :=
  let closed (url : Text) (cells : List Cell) : Option (Text × List Cell) :=
    match cells with
    | c :: rest => if c.char == ')' then some (url, rest) else none
    | [] => none
  let cells := Cell.dropBreak cells
  match closed [] cells with
  | some resource => some resource
  | none =>
      match readDestination (some 32) cells with
      | none => none
      | some (destination, rest) =>
          let url := literal destination
          let behind := Cell.dropBreak rest
          if Cell.startsWithBreak rest &&
              (Cell.headChar behind).any fun c => (titleEnd c).isSome then
            (readTitle behind).bind fun rest => closed url (Cell.dropBreak rest)
          else closed url behind

inductive BracketEnd where
  /-- With a destination, or to be completed by a definition, and the cells behind it. -/
  | link (url : Option Text) (rest : List Cell)
  | footnote
  | none

namespace Bracket

def labelOf (b : Bracket) (fromEnd : List Cell) : Text :=
  identifier (Cell.spanOf (consumed b.behind fromEnd))

/-- What a bracket that ends before some cells turns out to be, when its own label is `isDefined`.
-/
def endOf (definitions : List Text) (isDefined : Bool) (rest : List Cell) : BracketEnd :=
  let shortcut : BracketEnd := if isDefined then .link none rest else .none
  match rest with
  | [] => shortcut
  | c :: behind =>
      if c.char == '(' then
        match readResource behind with
        | some (url, rest) => .link (some url) rest
        | none => shortcut
      else if c.char == '[' then
        match readLabel {} behind with
        | some (label, rest) =>
            if definitions.contains (identifier (Cell.spanOf label)) then .link none rest else .none
        | none =>
            if isDefined && Cell.headChar behind == some ']' then .link none behind.tail else .none
      else shortcut

def resolve (context : InlineContext) (b : Bracket) (fromEnd : List Cell) : BracketEnd :=
  let label := b.labelOf fromEnd
  if b.inactive then .none
  else if b.kind == .footnote then
    if context.footnotes.contains label then .footnote
    else endOf context.definitions (context.definitions.contains ('^' :: label)) fromEnd.tail
  else endOf context.definitions (context.definitions.contains label) fromEnd.tail

def elementOf (b : Bracket) (url : Option Text) : Element :=
  if b.kind == .image then match url with
    | some _ => .image
    | none => .imageReference
  else match url with
    | some url => .link url
    | none => .linkReference

/-- The node of a bracket with a label made of pieces. The caret of a footnote that is none is
part of the label. -/
def nodeOf (b : Bracket) (url : Option Text) (pieces : List Piece) (stop : Point) : MarkTree :=
  let pieces := if b.kind == .footnote then .data b.opening.tail :: pieces else pieces
  markNode (b.elementOf url) b.start stop
    (if b.kind == .image then [] else nodesOfPieces false false false pieces)

end Bracket

end DocLinks.Markdown
