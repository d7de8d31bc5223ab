import DocLinks.Markdown.Cell

namespace DocLinks.Markdown.Html

def isSpace (c : Char) : Bool :=
  c == ' ' || c == '\t' || c == '\n'

inductive TagState where
  | name
  | between
  | attributeName
  | afterAttribute
  | beforeValue
  | quoted (mark : Char)
  | unquoted
  | afterQuoted
  /-- Behind the slash of a tag without content. -/
  | slash
  /-- Behind the slash of a closing tag. -/
  | beforeClosingName
  | closingName
  | afterClosingName

inductive TagStep where
  | go (state : TagState)
  | done
  | refuse

def stepBetween (c : Char) : TagStep :=
  if isSpace c then .go .between
  else if c == '/' then .go .slash
  else if c.isAlpha || c == ':' || c == '_' then .go .attributeName
  else if c == '>' then .done
  else .refuse

def stepAfterAttribute (c : Char) : TagStep :=
  if isSpace c then .go .afterAttribute
  else if c == '=' then .go .beforeValue
  else stepBetween c

def breaksValue (c : Char) : Bool :=
  c == '"' || c == '\'' || c == '<' || c == '=' || c == '\x60'

/-- The step of the machine. In a block an equals sign behind a value begins another value. -/
def TagState.step (inBlock : Bool) : TagState → Char → TagStep
  | .name, c =>
      if c.isAlphanum || c == '-' then .go .name
      else if isSpace c || c == '/' || c == '>' then stepBetween c
      else .refuse
  | .between, c => stepBetween c
  | .attributeName, c =>
      if c.isAlphanum || c == '-' || c == '.' || c == ':' || c == '_' then .go .attributeName
      else stepAfterAttribute c
  | .afterAttribute, c => stepAfterAttribute c
  | .beforeValue, c =>
      if isSpace c then .go .beforeValue
      else if c == '"' || c == '\'' then .go (.quoted c)
      else if c == '<' || c == '=' || c == '>' || c == '\x60' then .refuse
      else .go .unquoted
  | .quoted mark, c => if c == mark then .go .afterQuoted else .go (.quoted mark)
  | .unquoted, c =>
      if c == '=' && inBlock then .go .beforeValue
      else if breaksValue c then .refuse
      else if isSpace c || c == '/' || c == '>' then stepBetween c
      else .go .unquoted
  | .afterQuoted, c => if isSpace c || c == '/' || c == '>' then stepBetween c else .refuse
  | .slash, c => if c == '>' then .done else .refuse
  | .beforeClosingName, c => if c.isAlpha then .go .closingName else .refuse
  | .closingName, c =>
      if c.isAlphanum || c == '-' then .go .closingName
      else if isSpace c then .go .afterClosingName
      else if c == '>' then .done
      else .refuse
  | .afterClosingName, c =>
      if isSpace c then .go .afterClosingName else if c == '>' then .done else .refuse

def skipTag (inBlock : Bool) (state : TagState) : List Cell → Option (List Cell)
  | [] => none
  | c :: rest =>
      match state.step inBlock c.char with
      | .go state => skipTag inBlock state rest
      | .done => some rest
      | .refuse => none

/-- Passes over everything up to a closing angle bracket that follows `needed` marks in a row, of
which `seen` have been seen. -/
def skipPast (mark : Char) (needed seen : Nat) : List Cell → Option (List Cell)
  | [] => none
  | c :: rest =>
      if c.char == '>' && needed ≤ seen then some rest
      else skipPast mark needed (if c.char == mark then seen + 1 else 0) rest

/-- The marks behind `<` that open something other than a tag, each with the mark that has to
stand before the closing angle bracket, how many of it are needed, and how many the opening counts
for. -/
def openings : List (Text × Char × Nat × Nat) :=
  [("!--".toList, '-', 2, 2), ("![CDATA[".toList, ']', 2, 0), ("?".toList, '?', 1, 0)]

def skip (cells : List Cell) : Option (List Cell) :=
  match openings.find? fun o => Cell.startsWith o.1 cells with
  | some (opening, mark, needed, seen) => skipPast mark needed seen (cells.drop opening.length)
  | none =>
      match cells with
      | [] => none
      | c :: rest =>
          if c.char == '!' then
            if rest.head?.any (·.char.isAlpha) then skipPast '!' 0 0 rest else none
          else if c.char == '/' then skipTag false .beforeClosingName rest
          else if c.char.isAlpha then skipTag false .name rest
          else none

/-- The text of a mark: the indentation of further lines is not part of it. -/
def valueOf (lineStart : Bool) : List Cell → Text
  | [] => []
  | c :: rest =>
      if lineStart && c.isBlank then valueOf true rest
      else c.source ++ valueOf c.isEnding rest

end DocLinks.Markdown.Html
