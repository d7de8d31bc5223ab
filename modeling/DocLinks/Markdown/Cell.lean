import DocLinks.Position
import DocLinks.Text.Basic

/-!
A document as columns and lines. Every column of a tab is a cell of its own, so that a container
can take a part of a tab and leave the rest to what it holds. A line ending is one cell, whether
it is written as one character or two.
-/

namespace DocLinks.Markdown

/-- One column of a line, or the ending of a line. -/
structure Cell where
  /-- What the column holds: a line ending is `\n`, and a tab goes on with spaces. -/
  char : Char
  /-- The characters of the source that begin here. -/
  source : Text
  point : Point
  /-- How many columns of the same tab come before this one. -/
  depth : Nat
  /-- The character of the source before this cell. -/
  before : Char
  /-- The character of the source behind this cell. -/
  after : Char
  /-- Behind a line ending, what the containers take from the next line. -/
  taken : Text := []
  deriving DecidableEq, Repr

namespace Cell

def isBlank (c : Cell) : Bool :=
  c.char == ' ' || c.char == '\t'

def isEnding (c : Cell) : Bool :=
  c.char == '\n'

/-- The point behind the cell. Columns count the bytes of the UTF-8 form. -/
def stop (c : Cell) : Point :=
  if c.isEnding then ⟨c.point.line + 1, 1⟩ else ⟨c.point.line, c.point.column + c.char.utf8Size⟩

def tab (point : Point) (before after : Char) : List Cell :=
  { char := '\t', source := ['\t'], point, depth := 0, before, after } ::
    (List.range (3 - (point.column - 1) % 4)).map fun k =>
      { char := ' ', source := [], point := ⟨point.line, point.column + k + 1⟩, depth := k + 1,
        before := '\t', after }

def ofTextFrom (point : Point) (before : Char) : Text → List Cell
  | [] => []
  | '\r' :: '\n' :: rest =>
      { char := '\n', source := ['\r', '\n'], point, depth := 0, before,
        after := rest.headD '\n' } ::
        ofTextFrom ⟨point.line + 1, 1⟩ '\n' rest
  | c :: rest =>
      let after := rest.headD '\n'
      if c = '\r' ∨ c = '\n' then
        { char := '\n', source := [c], point, depth := 0, before, after } ::
          ofTextFrom ⟨point.line + 1, 1⟩ '\n' rest
      else if c = '\t' then
        tab point before after ++ ofTextFrom ⟨point.line, (point.column - 1) / 4 * 4 + 5⟩ c rest
      else
        { char := c, source := [c], point, depth := 0, before, after } ::
          ofTextFrom ⟨point.line, point.column + c.utf8Size⟩ c rest

/-- The mark that may stand at the very beginning of a text; it is no part of the document. -/
def byteOrderMark : Char := '\uFEFF'

def originOf (t : Text) : Point :=
  ⟨1, if t.head? = some byteOrderMark then 1 + byteOrderMark.utf8Size else 1⟩

def ofText (t : Text) : List Cell :=
  match t with
  | [] => []
  | c :: rest =>
      if c = byteOrderMark then ofTextFrom (originOf t) c rest else ofTextFrom (originOf t) '\n' t

def sourceOf (cells : List Cell) : Text :=
  cells.flatMap Cell.source

/-- The characters of the source from the first cell to the last, with what the containers took in
between. -/
def spanOf (cells : List Cell) : Text :=
  cells.flatMap fun c => c.source ++ c.taken

/-- The text of a row of cells. A row that begins inside a tab begins with spaces. -/
def textOf (cells : List Cell) : Text :=
  match cells with
  | [] => []
  | c :: _ => (if c.depth = 0 then [] else List.replicate (4 - c.depth) ' ') ++ sourceOf cells

/-- Where a row of cells begins, when `stop` is the point behind it. -/
def startOf (cells : List Cell) (stop : Point) : Point :=
  match cells with
  | [] => stop
  | c :: _ => c.point

def indent (cells : List Cell) : Nat :=
  (cells.takeWhile isBlank).length

def dropBlanks (cells : List Cell) : List Cell :=
  cells.dropWhile isBlank

def allBlank (cells : List Cell) : Bool :=
  cells.all isBlank

/-- Drops blanks, among them at most one line ending. -/
def dropBreak (cells : List Cell) : List Cell :=
  match dropBlanks cells with
  | [] => []
  | c :: rest => if c.isEnding then dropBlanks rest else c :: rest

def startsWithBreak (cells : List Cell) : Bool :=
  match cells with
  | [] => false
  | c :: _ => c.isBlank || c.isEnding

def headChar (cells : List Cell) : Option Char :=
  cells.head?.map Cell.char

def startsWith (t : Text) (cells : List Cell) : Bool :=
  t.isPrefixOf ((cells.take t.length).map Cell.char)

end Cell

/-- A line, or what the containers leave of it. -/
structure Line where
  cells : List Cell
  /-- The point behind the last cell, before the ending. -/
  stop : Point
  /-- The line ending, which only the last line can lack. -/
  ending : Option Cell
  /-- The part of the source that the containers took. -/
  taken : Text := []
  deriving DecidableEq, Repr

namespace Line

def start (line : Line) : Point :=
  Cell.startOf line.cells line.stop

def next (line : Line) : Point :=
  match line.ending with
  | some c => c.stop
  | none => line.stop

def isBlank (line : Line) : Bool :=
  Cell.allBlank line.cells

/-- What is left of the line when the containers have taken all but `cells`. -/
def leaving (line : Line) (cells : List Cell) : Line :=
  { line with
    cells := cells
    taken := line.taken ++ Cell.sourceOf (line.cells.take (line.cells.length - cells.length)) }

def cons (c : Cell) : List Line → List Line
  | [] => [⟨[c], c.stop, none, []⟩]
  | line :: lines => { line with cells := c :: line.cells } :: lines

def ofCells : List Cell → List Line
  | [] => []
  | c :: rest =>
      if c.isEnding then ⟨[], c.point, some c, []⟩ :: ofCells rest
      else cons c (ofCells rest)

def join : List Line → List Cell
  | [] => []
  | [line] => line.cells
  | line :: next :: lines =>
      line.cells ++ (line.ending.map fun c => { c with taken := next.taken }).toList ++
        join (next :: lines)

def stopOf (lines : List Line) (otherwise : Point) : Point :=
  match lines.getLast? with
  | some line => line.stop
  | none => otherwise

end Line

end DocLinks.Markdown
