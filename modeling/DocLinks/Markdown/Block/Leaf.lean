import DocLinks.Dialect
import DocLinks.Markdown.Cell

namespace DocLinks.Markdown

/-- Whether so many blanks may stand before a block that is not code. Where code cannot be
indented, indentation means nothing. -/
def indentFits (constructs : Constructs) (cells : List Cell) : Bool :=
  Cell.indent cells ≤ 3 || !constructs.codeIndented

def outdent (constructs : Constructs) (cells : List Cell) : Option (List Cell) :=
  if indentFits constructs cells then some (Cell.dropBlanks cells) else none

/-- The first of a row of cells together with how often it stands there in a row, and the rest. -/
def leadingRun (cells : List Cell) : Option (Cell × Nat × List Cell) :=
  match cells with
  | [] => none
  | c :: rest =>
      some (c, (rest.takeWhile fun d => d.char == c.char).length + 1,
        rest.dropWhile fun d => d.char == c.char)

def isBreakLine (cells : List Cell) : Bool :=
  match cells with
  | [] => false
  | c :: _ =>
      (c.char == '*' || c.char == '-' || c.char == '_') &&
        (cells.all fun d => d.char == c.char || d.isBlank) &&
        3 ≤ cells.countP fun d => d.char == c.char

def isThematicBreak (constructs : Constructs) (cells : List Cell) : Bool :=
  (outdent constructs cells).any isBreakLine

/-- A heading without its closing number signs: a number sign counts as closing if it begins a
word and nothing but blanks and closing signs follow. The held cells are kept if more text
follows. -/
def withoutClosing (held : List Cell) (inWord : Bool) : List Cell → List Cell
  | [] => []
  | c :: rest =>
      if c.isBlank || (c.char == '#' && !inWord) then withoutClosing (held ++ [c]) false rest
      else held ++ c :: withoutClosing [] true rest

def headingLine (constructs : Constructs) (cells : List Cell) : Option (Nat × List Cell) :=
  match (outdent constructs cells).bind leadingRun with
  | some (c, depth, rest) =>
      if c.char == '#' && depth ≤ 6 && rest.head?.all Cell.isBlank then
        some (depth, (withoutClosing [] false rest).dropWhile fun d => d.isBlank || d.char == '#')
      else none
  | none => none

def underlineDepth (constructs : Constructs) (cells : List Cell) : Option Nat :=
  match (outdent constructs cells).bind leadingRun with
  | some (c, _, rest) =>
      if !Cell.allBlank rest then none
      else if c.char == '=' then some 1
      else if c.char == '-' then some 2
      else none
  | none => none

structure Fence where
  marker : Char
  size : Nat
  start : Point
  deriving DecidableEq, Repr

def leastFence (marker : Char) : Nat :=
  if marker == '$' then 2 else 3

/-- The fence that a line opens. What follows it may not hold another marker, except for tildes.
-/
def openFence (constructs : Constructs) (cells : List Cell) : Option Fence :=
  match (outdent constructs cells).bind leadingRun with
  | some (c, size, rest) =>
      if (c.char == '\x60' || c.char == '~' || (c.char == '$' && constructs.math)) &&
          leastFence c.char ≤ size &&
          (c.char == '~' || rest.all fun d => d.char != c.char) then
        some ⟨c.char, size, c.point⟩
      else none
  | none => none

def Fence.isClosedBy (constructs : Constructs) (fence : Fence) (cells : List Cell) : Bool :=
  match (outdent constructs cells).bind leadingRun with
  | some (c, size, rest) => c.char == fence.marker && fence.size ≤ size && Cell.allBlank rest
  | none => false

end DocLinks.Markdown
