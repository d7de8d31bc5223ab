import DocLinks.Markdown.Inline.Prose
import DocLinks.Text.Punctuation

/-!
Emphasis. A run of markers opens or closes according to the characters on its two sides; a closing
run is matched with the nearest opening one that fits, and takes two markers if both have them.
-/

namespace DocLinks.Markdown

namespace Run

/-- Other markers of emphasis, beside which a run opens and closes as beside a letter. -/
def isNeighbour (gfm : Bool) (marker c : Char) : Bool :=
  marker != '~' && (c == '*' || c == '_' || (gfm && c == '~'))

/-- Whether a run can stand at the beginning of emphasis, with `inner` on its inner side. Swapped,
the question is whether it can stand at the end. -/
def faces (gfm : Bool) (marker inner outer : Char) : Bool :=
  let plain := !Text.isBlank inner && !Text.isPunctuation inner
  plain || (Text.isPunctuation inner && (Text.isBlank outer || Text.isPunctuation outer)) ||
    isNeighbour gfm marker inner

/-- The run that a row of markers is. Underscores inside a word neither open nor close. -/
def ofCells (gfm : Bool) (first : Cell) (more : List Cell) : Run :=
  let cells := first :: more
  let before := first.before
  let after := (more.getLast?.getD first).after
  let isPlain (c : Char) : Bool := !Text.isBlank c && !Text.isPunctuation c
  let opens := faces gfm first.char after before
  let closes := faces gfm first.char before after
  if first.char == '_' then
    { marker := first.char, cells
      opens := opens && (!isPlain before || !closes)
      closes := closes && (!isPlain after || !opens) }
  else { marker := first.char, cells, opens, closes }

def size (run : Run) : Nat :=
  run.cells.length

/-- Whether a run can open what another one closes. Where one of them could do both, the sum of
the sizes must not be a multiple of three, unless the size of the closing one is. Tildes must be
one or two, and as many on either side. -/
def fits (opener closer : Run) : Bool :=
  opener.opens && opener.marker == closer.marker &&
    !((opener.closes || closer.opens) && closer.size % 3 != 0 &&
      (opener.size + closer.size) % 3 == 0) &&
    (closer.marker != '~' || (closer.size == opener.size && closer.size ≤ 2))

end Run

namespace Emphasis

/-- The nearest run that can open what another one closes. The pieces come last one first; the
result has the pieces behind the run and the ones before it in the same order. -/
def findOpener (closer : Run) : List Piece → Option (List Piece × Run × List Piece)
  | [] => none
  | .run run :: rest =>
      if run.fits closer then some ([], run, rest)
      else (findOpener closer rest).map fun r => (.run run :: r.1, r.2)
  | piece :: rest => (findOpener closer rest).map fun r => (piece :: r.1, r.2)

def elementOf (marker : Char) (taken : Nat) : Element :=
  if marker == '~' then .delete else if taken = 1 then .emphasis else .strong

def leftOver (run : Run) (cells : List Cell) (pieces : List Piece) : List Piece :=
  if cells.isEmpty then pieces else .run { run with cells } :: pieces

/-- Closes as much as a run can close, of which the fuel is the number of markers. The pieces
before it come last one first. -/
def close (linksMails : Bool) (fuel : Nat) (closer : Run) (done : List Piece) : List Piece :=
  match fuel, findOpener closer done with
  | fuel + 1, some (between, opener, before) =>
      let taken := if 1 < opener.size && 1 < closer.size then 2 else 1
      let opening := opener.cells.drop (opener.size - taken)
      let closing := closer.cells.take taken
      match opening, closing.getLast? with
      | first :: _, some last =>
          let tree := markNode (elementOf closer.marker taken) first.point last.stop
            (Prose.assemble linksMails false false between.reverse)
          close linksMails fuel { closer with cells := closer.cells.drop taken }
            (.tree tree :: leftOver opener (opener.cells.take (opener.size - taken)) before)
      | _, _ => leftOver closer closer.cells done
  | _, _ => leftOver closer closer.cells done

/-- Matches the runs among pieces. The pieces before them come last one first. -/
def resolve (linksMails : Bool) (done : List Piece) : List Piece → List Piece
  | [] => done.reverse
  | .run run :: rest =>
      resolve linksMails
        (if run.closes then close linksMails run.size run done else .run run :: done) rest
  | piece :: rest => resolve linksMails (piece :: done) rest

end Emphasis

/-- The nodes that the pieces of a text make, emphasis among them. A whole text loses its blanks
at the beginning and at the end. -/
def nodesOfPieces (linksMails startsText endsText : Bool) (pieces : List Piece) : List MarkTree :=
  Prose.assemble linksMails startsText endsText (Emphasis.resolve linksMails [] pieces)

end DocLinks.Markdown
