import DocLinks.Markdown.Block.Basic

namespace DocLinks.Markdown.Mdx

inductive Unfinished where
  | tag (state : TagState) (tag : Tag)
  | expression (depth : Nat) (start : Point)

/-- Whether a line that goes on in a container must be said to be in an expression. -/
def Unfinished.inExpression : Unfinished → Bool
  | .expression .. => true
  | .tag (.expression _) _ => true
  | .tag .. => false

inductive LineResult where
  | complete (blocks : List BlockTree)
  | unfinished (blocks : List BlockTree) (rest : Unfinished)
  | none
  | problem (problem : Problem)

def LineResult.cons (block : BlockTree) : LineResult → LineResult
  | .complete blocks => .complete (block :: blocks)
  | .unfinished blocks rest => .unfinished (block :: blocks) rest
  | result => result

def tagBlock (tag : Tag) : BlockTree :=
  leafBlock (.tag tag) tag.start tag.stop

/-- Reads what is left of a line, which may hold at most `most` tags and expressions. -/
def readRest (most : Nat) (stop : Point) (cells : List Cell) : LineResult :=
  match most with
  | 0 => .none
  | most + 1 =>
      match Cell.dropBlanks cells with
      | [] => .complete []
      | c :: rest =>
          if c.char == '<' then
            match readTag .start { start := c.point, stop := c.point } rest with
            | .tag tag rest => (readRest most stop rest).cons (tagBlock tag)
            | .cut state tag => .unfinished [] (.tag state tag)
            | .none => .none
            | .problem p => .problem p
          else if c.char == '\x7b' then
            match skipExpression 0 rest with
            | .inr rest =>
                (readRest most stop rest).cons
                  (leafBlock .expression c.point (Cell.startOf rest stop))
            | .inl depth => .unfinished [] (.expression depth c.point)
          else .none

def readLine (stop : Point) (cells : List Cell) : LineResult :=
  match cells with
  | [] => .none
  | c :: _ =>
      if c.char == '<' || c.char == '\x7b' then readRest (cells.length + 1) stop cells else .none

/-- Reads a further line. The line ending before it counts as a blank. -/
def readFurther (unfinished : Unfinished) (ending : Cell) (line : Line) : LineResult :=
  match unfinished with
  | .tag state tag =>
      match readTag state tag (ending :: line.cells) with
      | .tag tag rest => (readRest (rest.length + 1) line.stop rest).cons (tagBlock tag)
      | .cut state tag => .unfinished [] (.tag state tag)
      | .none => .none
      | .problem p => .problem p
  | .expression depth start =>
      match skipExpression depth line.cells with
      | .inr rest =>
          (readRest (rest.length + 1) line.stop rest).cons
            (leafBlock .expression start (Cell.startOf rest line.stop))
      | .inl depth => .unfinished [] (.expression depth start)

end DocLinks.Markdown.Mdx
