import DocLinks.Markdown.Block.Leaf
import DocLinks.Markdown.Destination
import DocLinks.Markdown.Identifier

namespace DocLinks.Markdown

inductive Container where
  | quote
  /-- A list item with its marker, how many columns further lines are indented, and whether
  nothing stands behind the marker. -/
  | item (marker : Char) (indentation : Nat) (startsBlank : Bool)
  | footnote (label : Text)
  deriving DecidableEq, Repr

namespace Container

/-- The cells behind the mark of a block quote. One blank belongs to the mark. -/
def quoteRest (constructs : Constructs) (cells : List Cell) : Option (List Cell) :=
  match outdent constructs cells with
  | some (c :: rest) =>
      if c.char == '>' then
        some (if rest.head?.any Cell.isBlank then rest.tail else rest)
      else none
  | _ => none

/-- The length of a row of cells before `rest`. A tab counts as one, whatever its width; of a tab
that reaches into `rest` the further columns count as well. -/
def markLength (cells rest : List Cell) : Nat :=
  let depthOf (cells : List Cell) := (cells.head?.map Cell.depth).getD 0
  let before := if depthOf cells = 0 then 0 else 4 - depthOf cells
  before + Text.utf8Length (Cell.sourceOf cells) + (depthOf rest - 1)

/-- The marker of an item and the cells behind it. In the middle of a paragraph a number opens an
item only if it is one. -/
def itemMarker (constructs : Constructs) (interrupting : Bool) (cells : List Cell) :
    Option (Char × List Cell) :=
  match outdent constructs cells with
  | some (c :: rest) =>
      if c.char == '*' || c.char == '-' then
        if isBreakLine (c :: rest) then none else some (c.char, rest)
      else if c.char == '+' then some (c.char, rest)
      else
        let digits := (c :: rest).takeWhile fun d => d.char.isDigit
        match (c :: rest).dropWhile fun d => d.char.isDigit with
        | d :: rest =>
            if (d.char == '.' || d.char == ')') && 1 ≤ digits.length && digits.length ≤ 9 &&
                (!interrupting || digits.map Cell.char == ['1']) then
              some (d.char, rest)
            else none
        | [] => none
  | _ => none

/-- The item that a line opens, and the cells behind its mark. Up to four blanks belong to the
mark; if there are more, one does. In the middle of a paragraph an item without content opens
nothing. -/
def openItem (constructs : Constructs) (interrupting : Bool) (cells : List Cell) :
    Option (Container × List Cell) :=
  match itemMarker constructs interrupting cells with
  | none => none
  | some (marker, rest) =>
      let length (rest : List Cell) :=
        markLength (cells.take (cells.length - rest.length)) rest
      if Cell.allBlank rest then
        if interrupting then none else some (.item marker (length rest + 1) true, rest)
      else
        let blanks := Cell.indent rest
        if blanks = 0 then none
        else
          let behind := rest.drop (if blanks ≤ 4 then blanks else 1)
          some (.item marker (length behind) false, behind)

/-- Reads the label of a footnote up to its closing bracket. It holds no whitespace. -/
def readFootnoteLabel (size : Nat) (escaped : Bool) : List Cell → Option (List Cell × List Cell)
  | [] => none
  | c :: rest =>
      let proceed (escaped : Bool) :=
        (readFootnoteLabel (size + c.char.utf8Size) escaped rest).map fun r => (c :: r.1, r.2)
      if escaped && (c.char == '[' || c.char == '\\' || c.char == ']') then proceed false
      else if size > longestLabel || c.isBlank || c.char == '[' then none
      else if c.char == ']' then if size = 0 then none else some ([], rest)
      else proceed (c.char == '\\')

def openFootnote (constructs : Constructs) (cells : List Cell) : Option (Container × List Cell) :=
  match outdent constructs cells with
  | some (c :: d :: rest) =>
      if constructs.gfm && c.char == '[' && d.char == '^' then
        match readFootnoteLabel 0 false rest with
        | some (label, e :: rest) =>
            if e.char == ':' then
              some (.footnote (identifier (Cell.sourceOf label)), Cell.dropBlanks rest)
            else none
        | _ => none
      else none
  | _ => none

def openNew (constructs : Constructs) (interrupting : Bool) (cells : List Cell) :
    Option (Container × List Cell) :=
  ((quoteRest constructs cells).map fun rest => (.quote, rest)) <|>
    openItem constructs interrupting cells <|>
    openFootnote constructs cells

def dropIndentation (columns : Nat) (cells : List Cell) : Option (List Cell) :=
  if columns ≤ Cell.indent cells then some (cells.drop columns) else none

/-- The container as it goes on in a further line, and the cells it leaves. -/
def proceed (constructs : Constructs) (container : Container) (cells : List Cell) :
    Option (Container × List Cell) :=
  match container with
  | .quote => (quoteRest constructs cells).map fun rest => (.quote, rest)
  | .item marker indentation startsBlank =>
      if Cell.allBlank cells then
        if startsBlank then none
        else some (container, cells.drop (min indentation (Cell.indent cells)))
      else
        (dropIndentation indentation cells).map fun rest => (.item marker indentation false, rest)
  | .footnote _ =>
      if Cell.allBlank cells then some (container, cells.drop (min 4 (Cell.indent cells)))
      else (dropIndentation 4 cells).map fun rest => (container, rest)

end Container

end DocLinks.Markdown
