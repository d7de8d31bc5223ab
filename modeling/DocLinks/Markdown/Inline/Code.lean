import DocLinks.Markdown.Inline.Basic

namespace DocLinks.Markdown.Code

/-- Reads up to a run of exactly so many markers: the cells before it and behind it. -/
def readBody (marker : Char) (size : Nat) (inRun : Bool) :
    List Cell → Option (List Cell × List Cell)
  | [] => none
  | c :: rest =>
      if c.char == marker && !inRun &&
          (rest.takeWhile fun d => d.char == marker).length + 1 == size then
        some ([], rest.drop (size - 1))
      else (readBody marker size (c.char == marker) rest).map fun r => (c :: r.1, r.2)

def read (cells : List Cell) : Option (List Cell × List Cell) :=
  match cells with
  | [] => none
  | c :: _ =>
      let size := (cells.takeWhile fun d => d.char == c.char).length
      readBody c.char size false (cells.drop size)

/-- The text of cells on several lines. A line that begins inside a tab begins with spaces. -/
def textOfLines (lineStart : Bool) : List Cell → Text
  | [] => []
  | c :: rest =>
      (if lineStart && c.depth ≠ 0 then List.replicate (4 - c.depth) ' ' else []) ++ c.source ++
        textOfLines c.isEnding rest

def withoutEscapedBars : Text → Text
  | [] => []
  | '\\' :: '|' :: rest => '|' :: withoutEscapedBars rest
  | c :: rest => c :: withoutEscapedBars rest

/-- A text without the one space on either side that keeps a marker apart, unless it is all
spaces. -/
def withoutPadding (t : Text) : Text :=
  if 2 < t.length && t.head? == some ' ' && t.getLast? == some ' ' && !t.all (· == ' ') then
    t.tail.dropLast
  else t

/-- The text of code. In a table a bar is written with a backslash. -/
def valueOf (inTable : Bool) (cells : List Cell) : Text :=
  let text := textOfLines true cells
  withoutPadding (if inTable then withoutEscapedBars text else text)

end DocLinks.Markdown.Code
