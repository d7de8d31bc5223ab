import DocLinks.Markdown.Block.Leaf

namespace DocLinks.Markdown

structure TableCell where
  position : Position
  cells : List Cell
  deriving DecidableEq, Repr

structure TableRow where
  position : Position
  cells : List TableCell
  deriving DecidableEq, Repr

namespace Table

structure HeadState where
  /-- The words and dividers; a first word counts twice. -/
  parts : Nat
  count : Nat
  /-- Whether a cell has begun that is not counted yet. -/
  begun : Bool
  inWord : Bool
  escaped : Bool

def HeadState.step (s : HeadState) (c : Cell) : HeadState :=
  if s.inWord && s.escaped && (c.char == '\\' || c.char == '|') then { s with escaped := false }
  else if c.isBlank then { s with inWord := false, escaped := false }
  else if s.inWord && c.char != '|' then { s with escaped := c.char == '\\' }
  else
    { parts := s.parts + 1
      count := if s.begun then s.count + 1 else s.count
      begun := c.char == '|'
      inWord := c.char != '|'
      escaped := c.char == '\\' }

/-- The number of cells of a line that can be a head: it must be more than a single divider. -/
def headCount (constructs : Constructs) (cells : List Cell) : Option Nat :=
  match outdent constructs cells with
  | some (c :: rest) =>
      let plain := c.char != '|'
      let s := (c :: rest).foldl HeadState.step
        ⟨if plain then 1 else 0, 0, plain, false, false⟩
      if 1 < s.parts then some s.count else none
  | _ => none

inductive DelimiterState where
  | beforeCell
  | beforeValue
  | afterColon
  | dashes
  | afterValue
  deriving DecidableEq

/-- The state after a character, how many cells it begins, and whether it tells the row from an
underline. -/
def DelimiterState.step : DelimiterState → Cell → Option (DelimiterState × Nat × Bool)
  | .beforeCell, c =>
      if c.char == '|' then some (.beforeValue, 0, true)
      else if c.char == ':' then some (.afterColon, 1, true)
      else if c.char == '-' then some (.dashes, 1, false)
      else none
  | .beforeValue, c =>
      if c.isBlank then some (.beforeValue, 0, false)
      else if c.char == ':' then some (.afterColon, 1, true)
      else if c.char == '-' then some (.dashes, 1, false)
      else none
  | .afterColon, c => if c.char == '-' then some (.dashes, 0, false) else none
  | .dashes, c =>
      if c.char == '-' then some (.dashes, 0, false)
      else if c.char == ':' then some (.afterValue, 0, true)
      else if c.isBlank then some (.afterValue, 0, false)
      else if c.char == '|' then some (.beforeValue, 0, true)
      else none
  | .afterValue, c =>
      if c.isBlank then some (.afterValue, 0, false)
      else if c.char == '|' then some (.beforeValue, 0, true)
      else none

/-- The number of delimiters in what is left of a row, when `count` came before. -/
def delimitersFrom (state : DelimiterState) (count : Nat) (marked : Bool) :
    List Cell → Option Nat
  | [] =>
      if marked && state ≠ .beforeCell && state ≠ .afterColon then some count else none
  | c :: rest =>
      match state.step c with
      | some (next, more, mark) => delimitersFrom next (count + more) (marked || mark) rest
      | none => none

def delimiterCount (constructs : Constructs) (cells : List Cell) : Option Nat :=
  (outdent constructs cells).bind (delimitersFrom .beforeCell 0 false)

def consFirst (c : Cell) : List (List Cell) → List (List Cell)
  | [] => [[c]]
  | segment :: segments => (c :: segment) :: segments

/-- Cuts a row before every divider, but for one with which the row begins. -/
def segments (begun escaped : Bool) : List Cell → List (List Cell)
  | [] => [[]]
  | c :: rest =>
      if c.char == '|' && !escaped then
        if begun then [] :: consFirst c (segments true false rest)
        else consFirst c (segments true false rest)
      else
        consFirst c (segments (begun || !c.isBlank) (c.char == '\\' && !escaped) rest)

def textOfSegment (segment : List Cell) : List Cell :=
  let behind :=
    match Cell.dropBlanks segment with
    | [] => []
    | c :: rest => if c.char == '|' then Cell.dropBlanks rest else c :: rest
  (Cell.dropBlanks behind.reverse).reverse

/-- The cells of the segments of a row that ends at `stop`. A last segment without text belongs to
the cell before it. -/
def cellsOf (stop : Point) : List (List Cell) → List TableCell
  | [] => []
  | [segment] => [⟨⟨Cell.startOf segment stop, stop⟩, textOfSegment segment⟩]
  | segment :: last :: rest =>
      if rest.isEmpty && (textOfSegment last).isEmpty then
        [⟨⟨Cell.startOf segment stop, stop⟩, textOfSegment segment⟩]
      else
        ⟨⟨Cell.startOf segment stop, Cell.startOf last stop⟩, textOfSegment segment⟩ ::
          cellsOf stop (last :: rest)

def rowOf (line : Line) : TableRow :=
  ⟨⟨line.start, line.stop⟩, cellsOf line.stop (segments false false line.cells)⟩

end Table

end DocLinks.Markdown
