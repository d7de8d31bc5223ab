import DocLinks.Markdown.Block.Basic

namespace DocLinks.Markdown.Frontmatter

def isFence (marker : Char) (line : Line) : Bool :=
  (line.cells.takeWhile fun c => c.char == marker).length == 3 && Cell.allBlank (line.cells.drop 3)

def findClosing (marker : Char) : List Line → Option (Line × List Line)
  | [] => none
  | line :: rest => if isFence marker line then some (line, rest) else findClosing marker rest

def blockOf (marker : Char) : Option Block :=
  if marker == '-' then some .yaml else if marker == '+' then some .toml else none

/-- The metadata of a document, its last line, and the lines behind it. -/
def read (lines : List Line) : Option (BlockTree × Line × List Line) :=
  match lines with
  | [] => none
  | first :: rest =>
      match Cell.headChar first.cells with
      | none => none
      | some marker =>
          match blockOf marker, findClosing marker rest with
          | some block, some (closing, behind) =>
              if isFence marker first then
                some (leafBlock block first.start closing.stop, closing, behind)
              else none
          | _, _ => none

end DocLinks.Markdown.Frontmatter
