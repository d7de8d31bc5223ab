import DocLinks.Markdown.Html.Tag

namespace DocLinks.Markdown.Html

/-- The kinds of blocks, by what ends them. -/
inductive BlockKind where
  /-- Scripts, styles and preformatted text, up to a closing tag. -/
  | raw
  | comment
  | instruction
  | declaration
  | characterData
  /-- A tag of a block element, up to a blank line. -/
  | basic
  /-- Any other tag alone on its line, up to a blank line. -/
  | complete
  deriving DecidableEq, Repr

def BlockKind.endsBeforeBlank : BlockKind → Bool
  | .basic | .complete => true
  | _ => false

def rawNames : List String :=
  ["pre", "script", "style", "textarea"]

def blockNames : List String :=
  ["address", "article", "aside", "base", "basefont", "blockquote", "body", "caption", "center",
   "col", "colgroup", "dd", "details", "dialog", "dir", "div", "dl", "dt", "fieldset",
   "figcaption", "figure", "footer", "form", "frame", "frameset", "h1", "h2", "h3", "h4", "h5",
   "h6", "head", "header", "hr", "html", "iframe", "legend", "li", "link", "main", "menu",
   "menuitem", "nav", "noframes", "ol", "optgroup", "option", "p", "param", "search", "section",
   "summary", "table", "tbody", "td", "tfoot", "th", "thead", "title", "tr", "track", "ul"]

def isOneOf (names : List String) (name : Text) : Bool :=
  names.any fun known => known.toList == Text.toAsciiLower name

def closesRaw (cells : List Cell) : Bool :=
  let letters := (cells.takeWhile fun c => c.char.isAlpha).map Cell.char
  isOneOf rawNames letters && Cell.headChar (cells.drop letters.length) == some '>'

/-- How many marks in a row have been seen, after one more character, when `seen` have been before
it. Brackets count in pairs: a third one is the first of a new pair. -/
def seenAfter (kind : BlockKind) (seen : Nat) (c : Char) : Nat :=
  match kind with
  | .comment => if c == '-' then seen + 1 else 0
  | .instruction => if c == '?' then 1 else 0
  | .characterData => if c == ']' then (if seen = 2 then 1 else seen + 1) else 0
  | _ => 0

def marksNeeded : BlockKind → Option Nat
  | .comment | .characterData => some 2
  | .instruction => some 1
  | .declaration => some 0
  | _ => none

def closes (kind : BlockKind) (seen : Nat) : List Cell → Bool
  | [] => false
  | c :: rest =>
      (c.char == '>' && (marksNeeded kind).any (· ≤ seen)) ||
        (kind == .raw && c.char == '<' && Cell.headChar rest == some '/' && closesRaw rest.tail) ||
        closes kind (seenAfter kind seen c.char) rest

/-- A block that begins, and whether its first line is also its last. -/
structure Opening where
  kind : BlockKind
  closed : Bool

def openTag (mayComplete : Bool) (cells : List Cell) : Option Opening :=
  let closing := Cell.headChar cells == some '/'
  let cells := if closing then cells.tail else cells
  let name := (cells.takeWhile fun c => c.char.isAlphanum || c.char == '-').map Cell.char
  let rest := cells.drop name.length
  let slash := Cell.headChar rest == some '/'
  if !name.head?.any Char.isAlpha then none
  else if !(rest.head?.all fun c => isSpace c.char || c.char == '/' || c.char == '>') then none
  else if !slash && !closing && isOneOf rawNames name then some ⟨.raw, closes .raw 0 rest⟩
  else if isOneOf blockNames name then
    if slash && Cell.headChar rest.tail != some '>' then none else some ⟨.basic, false⟩
  else if !mayComplete then none
  else
    match skipTag true (if closing then .closingName else .name) rest with
    | some behind => if Cell.allBlank behind then some ⟨.complete, false⟩ else none
    | none => none

/-- The beginning of a block, from behind the angle bracket. A tag that is not of a block element
begins one only where a block `mayComplete`. -/
def openBlock (mayComplete : Bool) (cells : List Cell) : Option Opening :=
  if Cell.startsWith "!--".toList cells then
    some ⟨.comment, closes .comment 2 (cells.drop 3)⟩
  else if Cell.startsWith "![CDATA[".toList cells then
    some ⟨.characterData, closes .characterData 0 (cells.drop 8)⟩
  else if Cell.startsWith ['?'] cells then
    some ⟨.instruction, closes .instruction 1 cells.tail⟩
  else if Cell.startsWith ['!'] cells then
    if cells.tail.head?.any (·.char.isAlpha) then
      some ⟨.declaration, closes .declaration 0 cells.tail⟩
    else none
  else openTag mayComplete cells

end DocLinks.Markdown.Html
