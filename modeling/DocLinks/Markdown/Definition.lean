import DocLinks.Markdown.Destination
import DocLinks.Markdown.Identifier

namespace DocLinks.Markdown

structure Definition where
  label : Text
  url : Text
  deriving DecidableEq, Repr

namespace Definition

def endsBefore (cells : List Cell) : Bool :=
  cells.head?.all Cell.isEnding

/-- The cells behind a title, if a title and nothing else stands on its last line. -/
def skipTitle (cells : List Cell) : Option (List Cell) :=
  if Cell.startsWithBreak cells then
    ((readTitle (Cell.dropBreak cells)).map Cell.dropBlanks).filter endsBefore
  else none

def read (cells : List Cell) : Option (Definition × List Cell) :=
  match Cell.dropBlanks cells with
  | c :: rest =>
      if c.char == '[' then
        match readLabel {} rest with
        | some (label, d :: rest) =>
            if d.char == ':' then
              match readDestination none (Cell.dropBreak rest) with
              | some (destination, rest) =>
                  let behind := (skipTitle rest).getD (Cell.dropBlanks rest)
                  if endsBefore behind then
                    some (⟨identifier (Cell.spanOf label), literal destination⟩, behind)
                  else none
              | none => none
            else none
        | _ => none
      else none
  | [] => none

end Definition

end DocLinks.Markdown
