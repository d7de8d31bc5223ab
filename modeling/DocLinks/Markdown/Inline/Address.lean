import DocLinks.Markdown.Inline.Basic
import DocLinks.Text.Punctuation

namespace DocLinks.Markdown.Address

def isSchemePart (c : Char) : Bool :=
  c.isAlphanum || c == '+' || c == '-' || c == '.'

def isMailPart (c : Char) : Bool :=
  c.isAlphanum || "!#$%&'*+-./=?^_\x60\x7b|\x7d~".toList.contains c

/-- Whether a text is a scheme of two to 32 characters, a colon, and no blanks or controls behind.
-/
def isUri (t : Text) : Bool :=
  let scheme := t.takeWhile isSchemePart
  scheme.head?.any Char.isAlpha && 2 ≤ scheme.length && scheme.length ≤ 32 &&
    match t.drop scheme.length with
    | ':' :: rest => rest.all fun c => !(c ≤ ' ' || c == '<' || c == '\x7F')
    | _ => false

def isDomainLabel (t : Text) : Bool :=
  t.head?.any Char.isAlphanum && t.getLast?.any Char.isAlphanum && t.length ≤ 63 &&
    t.all fun c => c.isAlphanum || c == '-'

def isMail (t : Text) : Bool :=
  match Text.splitOnce '@' t with
  | some (name, domain) =>
      !name.isEmpty && name.all isMailPart && (Text.splitAll '.' domain).all isDomainLabel
  | none => false

/-- Reads an address from behind its angle bracket: the cells between the brackets, the
destination and what is behind. -/
def readEnclosed (cells : List Cell) : Option (List Cell × Text × List Cell) :=
  let inside := cells.takeWhile fun c => c.char != '>' && !c.isEnding
  let text := inside.map Cell.char
  match cells.drop inside.length with
  | c :: rest =>
      if c.char != '>' then none
      else if isUri text then some (inside, text, rest)
      else if isMail text then some (inside, "mailto:".toList ++ text, rest)
      else none
  | [] => none

inductive TrailState where
  | normal
  | beforeName
  | name
  | afterBracket

def isTrailing (c : Char) : Bool :=
  "!\"'),*.:;?_~".toList.contains c

/-- Whether nothing of an address follows: only punctuation and names of characters up to a blank.
-/
def isTrail (state : TrailState) : List Cell → Bool
  | [] =>
      match state with
      | .normal | .afterBracket => true
      | .beforeName | .name => false
  | c :: rest =>
      let normal : Bool :=
        if isTrailing c.char then isTrail .normal rest
        else if c.char == '&' then isTrail .beforeName rest
        else if c.char == ']' then isTrail .afterBracket rest
        else c.char == '<' || Text.isBlank c.char
      match state with
      | .normal => normal
      | .beforeName => c.char.isAlpha && isTrail .name rest
      | .name =>
          if c.char == ';' then isTrail .normal rest else c.char.isAlpha && isTrail .name rest
      | .afterBracket =>
          c.isBlank || c.isEnding || c.char == '(' || c.char == '[' || normal

/-- Whether the end of a domain makes it one: something has been seen, and there is no underscore
in the last two of its parts. -/
def isDomain (seen last before : Bool) : Bool :=
  seen && !last && !before

/-- Passes over a domain. `last` and `before` say whether there is an underscore in the part so
far and in the one before it. -/
def skipDomain (seen last before : Bool) : List Cell → Option (List Cell)
  | [] => if isDomain seen last before then some [] else none
  | c :: rest =>
      let ended := if isDomain seen last before then some (c :: rest) else none
      if c.char == '.' || c.char == '_' then
        if isTrail .normal (c :: rest) then ended
        else if c.char == '_' then skipDomain seen true before rest
        else skipDomain seen false last rest
      else if c.char == '-' then skipDomain seen last before rest
      else if Text.isBlank c.char || Text.isPunctuation c.char then ended
      else skipDomain true last before rest

/-- Passes over a path. Closing parentheses belong to it as long as there are open ones. -/
def skipPath (opened closed : Nat) : List Cell → List Cell
  | [] => []
  | c :: rest =>
      let closedHere := if c.char == ')' then closed + 1 else closed
      if c.char == '(' then skipPath (opened + 1) closed rest
      else if c.char == ')' && closed < opened then skipPath opened closedHere rest
      else if isTrailing c.char || c.char == '&' || c.char == '<' || c.char == ']' then
        if isTrail .normal (c :: rest) then c :: rest else skipPath opened closedHere rest
      else if Text.isBlank c.char then c :: rest
      else skipPath opened closed rest

def skipProtocol (cells : List Cell) : Option (List Cell) :=
  let name := (cells.takeWhile fun c => c.char.isAlpha).map Cell.char
  let rest := cells.drop name.length
  if (Text.eqIgnoreAsciiCase name "http".toList || Text.eqIgnoreAsciiCase name "https".toList) &&
      Cell.startsWith "://".toList rest then
    some (rest.drop 3)
  else none

def skipWithProtocol (previous : Option Char) (cells : List Cell) : Option (List Cell) :=
  if previous.any Char.isAlpha then none
  else ((skipProtocol cells).bind (skipDomain false false false)).map (skipPath 0 0)

def mayPrecede (c : Char) : Bool :=
  "\t\n (*_[]~".toList.contains c

def skipWithoutProtocol (previous : Option Char) (cells : List Cell) : Option (List Cell) :=
  let opening := (cells.take 4).map Cell.char
  if previous.all mayPrecede && Text.eqIgnoreAsciiCase opening "www.".toList &&
      !(cells.drop 4).isEmpty then
    (skipDomain false false false cells).map (skipPath 0 0)
  else none

end DocLinks.Markdown.Address
