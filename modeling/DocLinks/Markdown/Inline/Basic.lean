import DocLinks.Dialect
import DocLinks.Markdown.Mark

namespace DocLinks.Markdown

structure Run where
  marker : Char
  cells : List Cell
  opens : Bool
  closes : Bool
  deriving DecidableEq, Repr

inductive Piece where
  | data (cells : List Cell)
  | ending (cell : Cell)
  /-- A character written in another way. -/
  | literal (value : Text) (start stop : Point)
  /-- A backslash before a line ending. -/
  | lineBreak (start : Point)
  | run (run : Run)
  | tree (tree : MarkTree)
  deriving Repr

structure InlineContext where
  constructs : Constructs
  definitions : List Text
  footnotes : List Text
  inTable : Bool := false

/-- The point behind a row of cells, or another one if there are none. -/
def stopOf (cells : List Cell) (otherwise : Point) : Point :=
  match cells.getLast? with
  | some c => c.stop
  | none => otherwise

def consumed (cells rest : List Cell) : List Cell :=
  cells.take (cells.length - rest.length)

end DocLinks.Markdown
