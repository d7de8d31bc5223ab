import DocLinks.Markdown.Mdx.Problem
import DocLinks.Text.Punctuation

namespace DocLinks.Markdown.Mdx

/-- A tag, with the places that the rules of balance look at. -/
structure Tag where
  name : Text := []
  closing : Option Point := none
  selfClosing : Option Point := none
  firstAttribute : Option Point := none
  start : Point
  stop : Point
  deriving DecidableEq, Repr

inductive TagState where
  | start
  | beforeName
  | beforeClosingName
  | name
  | afterName
  | beforeMember
  | member
  | afterMember
  | beforeLocal
  | localName
  | afterLocal
  | beforeAttribute
  | attributeName
  | afterAttribute
  | beforeAttributeLocal
  | attributeLocal
  | afterAttributeLocal
  | beforeValue
  | quoted (mark : Char)
  /-- In an expression, inside so many further braces. -/
  | expression (depth : Nat)
  | selfClosing
  deriving DecidableEq, Repr

inductive TagStep where
  | go (state : TagState) (tag : Tag)
  | done (tag : Tag)
  | refuse
  | fail (problem : Problem)

def isNameStart (c : Char) : Bool :=
  c == '$' || c == '_' || c.isAlpha || (0x80 ≤ c.toNat && Text.isAlphanumeric c)

def isNamePart (c : Char) : Bool :=
  isNameStart c || c.isDigit || c == '-' || c == '\u200C' || c == '\u200D'

def isSpace (c : Char) : Bool :=
  Text.isBlank c

def endsName (c : Char) : Bool :=
  isSpace c || c == '/' || c == '>' || c == '\x7b'

def canStartName : Text :=
  "a character that can start a name, such as a letter, \x60$\x60, or \x60_\x60".toList

def canStartAttribute : Text :=
  "a character that can start an attribute name, such as a letter, \x60$\x60, or \x60_\x60".toList

def canBeInName : Text :=
  "a name character such as letters, digits, \x60$\x60, or \x60_\x60".toList

def canBeInAttribute : Text :=
  "an attribute name character such as letters, digits, \x60$\x60, or \x60_\x60".toList

def orInitializer : Text :=
  "; \x60=\x60 to initialize a value".toList

def orAttributes : Text :=
  "; whitespace before attributes".toList

def orEnd : Text :=
  "; or the end of the tag".toList

/-- A hint behind what is expected, where a character suggests it. -/
def hint (applies : Bool) (text : String) : Text :=
  if applies then " (note: ".toList ++ text.toList ++ [')'] else []

def linkHint : String :=
  "to create a link in MDX, use \x60[text](url)\x60"

def commentHint : String :=
  "JS comments in JSX tags are not supported in MDX"

def commentInstead : String :=
  "to create a comment in MDX, use \x60\x7b/* text */\x7d\x60"

def elementInstead : String :=
  "to use an element or fragment as a prop value in MDX, use \x60\x7b<element />\x7d\x60"

def canStartValue : Text :=
  "a character that can start an attribute value, such as ".toList ++ Problem.quoted ['"'] ++
    ", ".toList ++ Problem.quoted ['\''] ++ ", or ".toList ++ Problem.quoted ['\x7b']

def fail (c : Cell) (place : String) (expected : Text) : TagStep :=
  .fail (Problem.unexpected c place.toList expected)

/-- The step between attributes, which also ends the tag. -/
def stepAttributes (tag : Tag) (c : Cell) (place : String) (expected : Text) : TagStep :=
  let noted := { tag with firstAttribute := tag.firstAttribute <|> some c.point }
  if c.char == '/' then .go .selfClosing { tag with selfClosing := some c.point }
  else if c.char == '>' then .done { tag with stop := c.stop }
  else if c.char == '\x7b' then .go (.expression 0) noted
  else if isNameStart c.char then .go .attributeName noted
  else fail c place expected

def stepBehindName (tag : Tag) (c : Cell) (state : TagState) (place : String) : TagStep :=
  if isSpace c.char then .go state tag
  else if c.char == '.' && (state == .afterName || state == .afterMember) then
    .go .beforeMember { tag with name := tag.name ++ ['.'] }
  else if c.char == ':' && state == .afterName then
    .go .beforeLocal { tag with name := tag.name ++ [':'] }
  else stepAttributes tag c place (canStartAttribute ++ orAttributes ++ orEnd)

def stepBehindAttribute (tag : Tag) (c : Cell) (state : TagState) (place : String) : TagStep :=
  if isSpace c.char then .go state tag
  else if c.char == ':' && state == .afterAttribute then .go .beforeAttributeLocal tag
  else if c.char == '=' then .go .beforeValue tag
  else stepAttributes tag c place (canStartAttribute ++ orInitializer ++ orEnd)

def TagState.step (tag : Tag) (c : Cell) : TagState → TagStep
  | .start =>
      if c.isBlank || c.isEnding then .refuse
      else if c.char == '/' then .go .beforeClosingName { tag with closing := some c.point }
      else if c.char == '>' then .done { tag with stop := c.stop }
      else if isNameStart c.char then .go .name { tag with name := [c.char] }
      else if isSpace c.char then .go .beforeName tag
      else
        fail c "before name" (canStartName ++ hint (c.char == '!') commentInstead)
  | .beforeName =>
      if isSpace c.char then .go .beforeName tag
      else if c.char == '/' then .go .beforeClosingName { tag with closing := some c.point }
      else if c.char == '>' then .done { tag with stop := c.stop }
      else if isNameStart c.char then .go .name { tag with name := [c.char] }
      else fail c "before name" canStartName
  | .beforeClosingName =>
      if isSpace c.char then .go .beforeClosingName tag
      else if c.char == '>' then .done { tag with stop := c.stop }
      else if isNameStart c.char then .go .name { tag with name := [c.char] }
      else
        fail c "before name"
          (canStartName ++ hint (c.char == '*' || c.char == '/') commentHint)
  | .name =>
      if isNamePart c.char then .go .name { tag with name := tag.name ++ [c.char] }
      else if endsName c.char || c.char == '.' || c.char == ':' then
        stepBehindName tag c .afterName "after name"
      else
        fail c "in name"
          (canBeInName ++ orAttributes ++ orEnd ++ hint (c.char == '@') linkHint)
  | .afterName => stepBehindName tag c .afterName "after name"
  | .beforeMember =>
      if isSpace c.char then .go .beforeMember tag
      else if isNameStart c.char then .go .member { tag with name := tag.name ++ [c.char] }
      else fail c "before member name" (canStartAttribute ++ orAttributes ++ orEnd)
  | .member =>
      if isNamePart c.char then .go .member { tag with name := tag.name ++ [c.char] }
      else if endsName c.char || c.char == '.' then
        stepBehindName tag c .afterMember "after member name"
      else
        fail c "in member name"
          (canBeInName ++ orAttributes ++ orEnd ++ hint (c.char == '@') linkHint)
  | .afterMember => stepBehindName tag c .afterMember "after member name"
  | .beforeLocal =>
      if isSpace c.char then .go .beforeLocal tag
      else if isNameStart c.char then .go .localName { tag with name := tag.name ++ [c.char] }
      else
        fail c "before local name"
          (canStartName ++ hint (c.char == '+' || ('/' ≤ c.char && c.char ≤ '9')) linkHint)
  | .localName =>
      if isNamePart c.char then .go .localName { tag with name := tag.name ++ [c.char] }
      else if endsName c.char then stepBehindName tag c .afterLocal "after local name"
      else fail c "in local name" (canBeInName ++ orAttributes ++ orEnd)
  | .afterLocal => stepBehindName tag c .afterLocal "after local name"
  | .beforeAttribute =>
      if isSpace c.char then .go .beforeAttribute tag
      else
        stepAttributes tag c "before attribute name" (canStartAttribute ++ orAttributes ++ orEnd)
  | .attributeName =>
      if isNamePart c.char then .go .attributeName tag
      else if endsName c.char || c.char == ':' || c.char == '=' then
        stepBehindAttribute tag c .afterAttribute "after attribute name"
      else fail c "in attribute name" (canBeInAttribute ++ orInitializer ++ orAttributes ++ orEnd)
  | .afterAttribute => stepBehindAttribute tag c .afterAttribute "after attribute name"
  | .beforeAttributeLocal =>
      if isSpace c.char then .go .beforeAttributeLocal tag
      else if isNameStart c.char then .go .attributeLocal tag
      else fail c "before local attribute name" (canStartAttribute ++ orInitializer ++ orEnd)
  | .attributeLocal =>
      if isNamePart c.char then .go .attributeLocal tag
      else if endsName c.char || c.char == '=' then
        stepBehindAttribute tag c .afterAttributeLocal "after local attribute name"
      else
        fail c "in local attribute name"
          (canBeInAttribute ++ orInitializer ++ orAttributes ++ orEnd)
  | .afterAttributeLocal =>
      stepBehindAttribute tag c .afterAttributeLocal "after local attribute name"
  | .beforeValue =>
      if isSpace c.char then .go .beforeValue tag
      else if c.char == '"' || c.char == '\'' then .go (.quoted c.char) tag
      else if c.char == '\x7b' then .go (.expression 0) tag
      else
        fail c "before attribute value"
          (canStartValue ++ hint (c.char == '<') elementInstead)
  | .quoted mark => if c.char == mark then .go .beforeAttribute tag else .go (.quoted mark) tag
  | .expression depth =>
      if c.char == '\x7b' then .go (.expression (depth + 1)) tag
      else if c.char == '\x7d' then
        if depth = 0 then .go .beforeAttribute tag else .go (.expression (depth - 1)) tag
      else .go (.expression depth) tag
  | .selfClosing =>
      if isSpace c.char then .go .selfClosing tag
      else if c.char == '>' then .done { tag with stop := c.stop }
      else
        fail c "after self-closing slash"
          ("\x60>\x60 to end the tag".toList ++
            hint (c.char == '*' || c.char == '/') commentHint)

/-- The end of a text in the middle of a tag: a tag cut off is no tag, but a quote or an
expression that has begun must end. -/
def TagState.atEnd (point : Point) : TagState → Option Problem
  | .quoted mark => some (Problem.unclosedQuote point mark)
  | .expression _ => some (Problem.unclosedExpression point)
  | _ => none

inductive TagResult where
  | tag (tag : Tag) (rest : List Cell)
  | cut (state : TagState) (tag : Tag)
  | none
  | problem (problem : Problem)

/-- Reads a tag from behind its opening angle bracket, or goes on reading one. -/
def readTag (state : TagState) (tag : Tag) : List Cell → TagResult
  | [] => .cut state tag
  | c :: rest =>
      match state.step tag c with
      | .go state tag => readTag state tag rest
      | .done tag => .tag tag rest
      | .refuse => .none
      | .fail problem => .problem problem

/-- Passes over an expression inside `depth` further braces; gives the depth where the cells end
before it does. -/
def skipExpression (depth : Nat) : List Cell → Nat ⊕ List Cell
  | [] => .inl depth
  | c :: rest =>
      if c.char == '\x7b' then skipExpression (depth + 1) rest
      else if c.char == '\x7d' then
        if depth = 0 then .inr rest else skipExpression (depth - 1) rest
      else skipExpression depth rest

end DocLinks.Markdown.Mdx
